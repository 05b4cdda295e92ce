import Mathlib.Data.List.Basic
import Std.Data.String.ToInt

/-!
# Texts cut at a mark

Two texts joined by a mark come apart in one way, if the mark is in neither of the first texts
(`cut_inj`) or in neither of the last ones (`cut_last_inj`).  The text of a number holds none
(`not_mem_toString`).
-/

namespace Apidoc

theorem cut_list_inj {α : Type} {c : α} {p q a b : List α} (hp : c ∉ p) (hq : c ∉ q)
    (h : p ++ c :: a = q ++ c :: b) : p = q ∧ a = b := by
  induction p generalizing q with
  | nil =>
    cases q with
    | nil => exact ⟨rfl, (List.cons.inj h).2⟩
    | cons y q => exact absurd (List.mem_cons.mpr (.inl (List.cons.inj h).1)) hq
  | cons x p ih =>
    rw [List.mem_cons, not_or] at hp
    cases q with
    | nil => exact absurd (List.cons.inj h).1.symm hp.1
    | cons y q =>
      rw [List.mem_cons, not_or] at hq
      obtain ⟨hxy, hrest⟩ := List.cons.inj h
      obtain ⟨hpq, hab⟩ := ih hp.2 hq.2 hrest
      exact ⟨by rw [hxy, hpq], hab⟩

theorem cut_inj {mark : String} {c : Char} (hmark : mark.toList = [c]) {p q a b : String}
    (hp : c ∉ p.toList) (hq : c ∉ q.toList) (h : p ++ mark ++ a = q ++ mark ++ b) :
    p = q ∧ a = b := by
  have hlist := congrArg String.toList h
  simp only [String.toList_append, List.append_assoc, hmark, List.singleton_append] at hlist
  obtain ⟨hpq, hab⟩ := cut_list_inj hp hq hlist
  exact ⟨String.toList_inj.mp hpq, String.toList_inj.mp hab⟩

theorem cut_last_inj {mark : String} {c : Char} (hmark : mark.toList = [c]) {p q a b : String}
    (ha : c ∉ a.toList) (hb : c ∉ b.toList) (h : p ++ mark ++ a = q ++ mark ++ b) :
    p = q ∧ a = b := by
  have hlist := congrArg (fun s => s.toList.reverse) h
  simp only [String.toList_append, hmark, List.reverse_append, List.reverse_singleton,
    List.singleton_append] at hlist
  rw [← List.mem_reverse] at ha hb
  obtain ⟨hab, hpq⟩ := cut_list_inj ha hb hlist
  exact ⟨String.toList_inj.mp (List.reverse_injective hpq),
    String.toList_inj.mp (List.reverse_injective hab)⟩

theorem not_mem_toString {c : Char} (hsign : c ≠ '-') (hdigit : c.isDigit = false) (n : Int) :
    c ∉ (toString n).toList := by
  have hdigits (n : Nat) : c ∉ n.repr.toList := by
    rw [Nat.toList_repr]
    intro h
    exact absurd (Nat.isDigit_of_mem_toDigits (by decide) (by decide) h) (by simp [hdigit])
  rw [show toString n = n.repr from rfl, Int.repr_eq_if]
  split
  · exact hdigits _
  · rw [String.toList_append, List.mem_append, not_or]
    exact ⟨fun h => hsign (List.mem_singleton.mp h), hdigits _⟩

end Apidoc
