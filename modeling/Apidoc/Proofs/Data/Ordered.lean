import Apidoc.Data.Ordered
import Apidoc.Data.Value
import Mathlib.Data.List.Basic

/-!
# Ordered maps with texts as keys

* `Ordered.get?_set_self`, `Ordered.get?_set_of_ne`   what is found after a value was set;
* `Ordered.ofList_eq_self`   pairs under distinct keys are kept as they are;
* `Ordered.overlay_eq`       keys that are there keep their places, and new ones follow;
* `Ordered.ofList_function`  of keys that come again only the first place counts;
* `Ordered.overlay_ofList`   a map of pairs is laid over another one as the pairs are;
* `Ordered.keyed`            a map whose keys are texts, as a map of plain data.
-/

namespace Apidoc

theorem Data.str_beq (s t : String) : (Data.str s == Data.str t) = (s == t) := by
  show Data.same (.str s) (.str t) = _
  rw [Data.same]

theorem Data.beq_str {a : Data} {s : String} : (a == .str s) = true ↔ a = .str s := by
  refine ⟨fun h => ?_, fun h => by rw [h, Data.str_beq, beq_self_eq_true]⟩
  change Data.same a (.str s) = true at h
  cases a with
  | str t =>
    rw [Data.same, beq_iff_eq] at h
    rw [h]
  | float x =>
    rw [Data.same, Data.sameNumber] at h
    · cases hx : (Data.float x).wholeNumber? <;> rw [hx] at h <;> cases h
    all_goals nofun
  | _ => cases h

theorem Data.str_beq_comm (s : String) (a : Data) : (.str s == a) = (a == .str s) := by
  change Data.same (.str s) a = Data.same a (.str s)
  cases a with
  | str t => rw [Data.same, Data.same, BEq.comm]
  | float x =>
    rw [Data.same, Data.same, Data.sameNumber, Data.sameNumber]
    · cases hx : (Data.float x).wholeNumber? <;> rfl
    all_goals nofun
  | _ => rfl

namespace Ordered

variable {κ α β : Type}

theorem get?_map [BEq κ] (f : α → β) (m : Ordered κ α) (k : κ) :
    get? (m.map fun p => (p.1, f p.2)) k = (get? m k).map f := by
  rw [get?, get?, List.find?_map, Option.map_map, Option.map_map]
  rfl

theorem set_map [BEq κ] (f : α → β) (m : Ordered κ α) (k : κ) (v : α) :
    set (m.map fun p => (p.1, f p.2)) k (f v) = (set m k v).map fun p => (p.1, f p.2) := by
  induction m with
  | nil => rfl
  | cons p m ih =>
    rw [List.map_cons, set, set]
    split
    · rfl
    · rw [ih]
      rfl

theorem overlay_map [BEq κ] (f : α → β) (m n : Ordered κ α) :
    overlay (m.map fun p => (p.1, f p.2)) (n.map fun p => (p.1, f p.2)) =
      (overlay m n).map fun p => (p.1, f p.2) := by
  induction n generalizing m with
  | nil => rfl
  | cons p n ih =>
    show overlay (set (m.map fun p => (p.1, f p.2)) p.1 (f p.2)) (n.map fun p => (p.1, f p.2)) = _
    rw [set_map, ih]
    rfl

theorem ofList_map [BEq κ] (f : α → β) (m : List (κ × α)) :
    ofList (m.map fun p => (p.1, f p.2)) = (ofList m).map fun p => (p.1, f p.2) :=
  overlay_map f [] m

theorem get?_cons [BEq κ] (p : κ × α) (m : Ordered κ α) (k : κ) :
    get? (p :: m) k = if p.1 == k then some p.2 else get? m k := by
  rw [get?, get?, List.find?_cons]
  cases p.1 == k <;> rfl

theorem get?_set_self [BEq κ] {k : κ} (hk : (k == k) = true) (m : Ordered κ α) (v : α) :
    get? (set m k v) k = some v := by
  induction m with
  | nil => rw [set, get?_cons, if_pos hk]
  | cons p m ih =>
    rw [set]
    split
    · next hp => rw [get?_cons, if_pos hp]
    · next hp => rw [get?_cons, if_neg hp, ih]

/-- Under a key that nothing else equals, a value is set for no other key. -/
theorem get?_set_of_ne [BEq κ] {k j : κ} (hk : ∀ a, (a == k) = true → a = k)
    (hj : ¬ (k == j) = true) (m : Ordered κ α) (v : α) : get? (set m k v) j = get? m j := by
  induction m with
  | nil => rw [set, get?_cons, if_neg hj]
  | cons p m ih =>
    rw [set]
    split
    · next hp =>
      have hne : ¬ (p.1 == j) = true := hk p.1 hp ▸ hj
      rw [get?_cons, get?_cons, if_neg hne, if_neg hne]
    · rw [get?_cons, get?_cons, ih]

theorem get?_set_str_of_ne {id : String} {j : Data} (h : j ≠ .str id) (m : Ordered Data α) (v : α) :
    get? (set m (.str id) v) j = get? m j :=
  get?_set_of_ne (fun _ => Data.beq_str.mp)
    (fun he => h (Data.beq_str.mp (Data.str_beq_comm id j ▸ he))) m v

theorem keys_set [BEq κ] (m : Ordered κ α) (k : κ) (v : α) :
    m.map (·.1) ⊆ (set m k v).map (·.1) := by
  induction m with
  | nil => exact List.nil_subset _
  | cons p m ih =>
    rw [set]
    split
    · exact List.Subset.refl _
    · exact List.cons_subset_cons p.1 ih

theorem keys_overlay [BEq κ] (m n : Ordered κ α) : m.map (·.1) ⊆ (overlay m n).map (·.1) := by
  induction n generalizing m with
  | nil => exact List.Subset.refl _
  | cons p n ih => exact List.Subset.trans (keys_set m p.1 p.2) (ih _)

theorem exists_key_set [BEq κ] {k : κ} (hk : (k == k) = true) (m : Ordered κ α) (v : α) :
    ∃ l ∈ (set m k v).map (·.1), (l == k) = true := by
  induction m with
  | nil => exact ⟨k, List.mem_cons_self, hk⟩
  | cons p m ih =>
    rw [set]
    split
    · exact ⟨p.1, List.mem_cons_self, by assumption⟩
    · obtain ⟨l, hl, hlk⟩ := ih
      exact ⟨l, List.mem_cons_of_mem _ hl, hlk⟩

theorem exists_key_overlay [BEq κ] {k : κ} (hk : (k == k) = true) {n : Ordered κ α}
    (h : k ∈ n.map (·.1)) (m : Ordered κ α) : ∃ l ∈ (overlay m n).map (·.1), (l == k) = true := by
  induction n generalizing m with
  | nil => cases h
  | cons p n ih =>
    rcases List.mem_cons.mp h with rfl | h
    · obtain ⟨l, hl, hlk⟩ := exists_key_set hk m p.2
      exact ⟨l, keys_overlay _ n hl, hlk⟩
    · exact ih h _

section

variable [BEq κ] [LawfulBEq κ] {m n : Ordered κ α} {k : κ}

theorem get?_map_key (f : κ → α → β) (m : Ordered κ α) (k : κ) :
    get? (m.map fun p => (p.1, f p.1 p.2)) k = (get? m k).map (f k) := by
  induction m with
  | nil => rfl
  | cons p m ih =>
    rw [List.map_cons, get?_cons, get?_cons, ih]
    split
    · rw [beq_iff_eq.mp ‹(p.1 == k) = true›]
      rfl
    · rfl

theorem set_map_key (f : κ → α → β) (m : Ordered κ α) (k : κ) (v : α) :
    set (m.map fun p => (p.1, f p.1 p.2)) k (f k v) = (set m k v).map fun p =>
      (p.1, f p.1 p.2) := by
  induction m with
  | nil => rfl
  | cons p m ih =>
    rw [List.map_cons, set, set]
    split
    · rw [List.map_cons, beq_iff_eq.mp ‹(p.1 == k) = true›]
    · rw [ih]
      rfl

theorem set_new (h : k ∉ m.map (·.1)) (v : α) : set m k v = m ++ [(k, v)] := by
  induction m with
  | nil => rfl
  | cons p m ih =>
    rw [List.map_cons, List.mem_cons, not_or] at h
    rw [set, if_neg fun e => h.1 (eq_of_beq e).symm, ih h.2, List.cons_append]

theorem overlay_new (h : ((m ++ n).map (·.1)).Nodup) : overlay m n = m ++ n := by
  induction n generalizing m with
  | nil => exact (List.append_nil m).symm
  | cons p n ih =>
    have hnew : p.1 ∉ m.map (·.1) := by
      rw [List.map_append, List.map_cons, List.nodup_append] at h
      exact fun hp => h.2.2 p.1 hp p.1 List.mem_cons_self rfl
    have happend : m ++ p :: n = m ++ [p] ++ n := by simp
    show overlay (set m p.1 p.2) n = _
    rw [happend] at h ⊢
    rw [set_new hnew, ih h]

theorem ofList_eq_self (h : (m.map (·.1)).Nodup) : ofList m = m := overlay_new (m := []) h

theorem get?_eq_lookup (m : Ordered κ α) (k : κ) : get? m k = m.lookup k := by
  induction m with
  | nil => rfl
  | cons p m ih =>
    obtain ⟨l, v⟩ := p
    by_cases h : l = k
    · simp [get?, h]
    · have hne : (k == l) = false := beq_eq_false_iff_ne.mpr (Ne.symm h)
      have hne' : (l == k) = false := beq_eq_false_iff_ne.mpr h
      simp only [get?, List.find?_cons, hne', List.lookup_cons, hne]
      exact ih

theorem get?_perm (h : m.Perm n) (hm : (m.map (·.1)).Nodup) (k : κ) : get? m k = get? n k := by
  induction h with
  | nil => rfl
  | cons p _ ih =>
    rw [List.map_cons, List.nodup_cons] at hm
    have ih := ih hm.2
    unfold get? at ih ⊢
    rw [List.find?_cons, List.find?_cons]
    split
    · rfl
    · exact ih
  | swap p q l =>
    rw [List.map_cons, List.map_cons, List.nodup_cons, List.mem_cons, not_or] at hm
    unfold get?
    rw [List.find?_cons, List.find?_cons, List.find?_cons, List.find?_cons]
    by_cases hp : p.1 = k
    · have hq : (q.1 == k) = false := beq_eq_false_iff_ne.mpr fun e => hm.1.1 (e.trans hp.symm)
      simp [hp, hq]
    · simp [beq_eq_false_iff_ne.mpr hp]
  | trans h _ ih ih' => exact (ih hm).trans (ih' ((h.map _).nodup_iff.mp hm))

theorem set_of_mem (hm : (m.map (·.1)).Nodup) (h : k ∈ m.map (·.1)) (v : α) [DecidableEq κ] :
    set m k v = m.map fun p => if p.1 = k then (k, v) else p := by
  induction m with
  | nil => cases h
  | cons p m ih =>
    rw [List.map_cons, List.nodup_cons] at hm
    rw [List.map_cons, set]
    by_cases hp : p.1 = k
    · have hrest : m.map (fun p => if p.1 = k then (k, v) else p) = m := by
        conv_rhs => rw [← List.map_id m]
        refine List.map_congr_left fun q hq => if_neg fun e => hm.1 ?_
        rw [hp, ← e]
        exact List.mem_map_of_mem hq
      rw [if_pos (beq_iff_eq.mpr hp), if_pos hp, hrest, hp]
    · rw [List.map_cons, List.mem_cons] at h
      rw [if_neg (by simpa using hp), if_neg hp, ih hm.2 (h.resolve_left (Ne.symm hp))]

theorem keys_set_of_mem (h : k ∈ m.map (·.1)) (v : α) : (set m k v).map (·.1) = m.map (·.1) := by
  induction m with
  | nil => cases h
  | cons p m ih =>
    rw [set]
    split
    · rfl
    · rename_i hne
      rw [List.map_cons, List.mem_cons] at h
      rw [List.map_cons, List.map_cons, ih (h.resolve_left fun he => hne (beq_iff_eq.mpr he.symm))]

theorem lookup_eq_none (h : k ∉ n.map (·.1)) : n.lookup k = none := by
  rw [List.lookup_eq_none_iff]
  intro p hp
  rw [bne_iff_ne]
  exact fun he => h (he ▸ List.mem_map_of_mem hp)

/-- Of two maps, one laid over the other, the keys that are there keep their places with the new
values, and the new keys follow. -/
theorem overlay_eq (hm : (m.map (·.1)).Nodup) (hn : (n.map (·.1)).Nodup) :
    overlay m n = (m.map fun p => (p.1, (n.lookup p.1).getD p.2)) ++
      n.filter fun p => !(m.map (·.1)).contains p.1 := by
  classical
  induction n generalizing m with
  | nil =>
    have hsame : (m.map fun p => (p.1, ([].lookup p.1).getD p.2)) = m := List.map_id m
    rw [hsame, List.filter_nil, List.append_nil]
    rfl
  | cons p n ih =>
    rw [List.map_cons, List.nodup_cons] at hn
    have hnone := lookup_eq_none hn.1
    have hlater {q : κ × α} (hq : q ∈ n) : q.1 ≠ p.1 := fun he => hn.1 (he ▸ List.mem_map_of_mem hq)
    show overlay (set m p.1 p.2) n = _
    by_cases hk : p.1 ∈ m.map (·.1)
    · have hkeys := keys_set_of_mem hk p.2
      rw [ih (hkeys ▸ hm) hn.2, hkeys, List.filter_cons_of_neg (by simpa using hk),
        set_of_mem hm hk, List.map_map]
      refine congrArg (· ++ _) (List.map_congr_left fun q _ => ?_)
      rw [Function.comp_apply, List.lookup_cons]
      by_cases hq : q.1 = p.1
      · simp [hq, hnone]
      · simp [hq, beq_eq_false_iff_ne.mpr hq]
    · have hkeys : (set m p.1 p.2).map (·.1) = m.map (·.1) ++ [p.1] := by
        rw [set_new hk, List.map_append]
        rfl
      have hnodup : ((set m p.1 p.2).map (·.1)).Nodup := by
        rw [hkeys, List.nodup_append]
        refine ⟨hm, List.pairwise_singleton _ _, fun a ha b hb he => hk ?_⟩
        rwa [← List.mem_singleton.mp hb, ← he]
      have hfilter : (n.filter fun q => !(m.map (·.1) ++ [p.1]).contains q.1) =
          n.filter fun q => !(m.map (·.1)).contains q.1 := by
        refine List.filter_congr fun q hq => ?_
        simp [hlater hq]
      have hold : (m.map fun q => (q.1, (n.lookup q.1).getD q.2)) =
          m.map fun q => (q.1, ((p :: n).lookup q.1).getD q.2) := by
        refine List.map_congr_left fun q hq => ?_
        have hne : (q.1 == p.1) = false :=
          beq_eq_false_iff_ne.mpr fun he => hk (he ▸ List.mem_map_of_mem hq)
        rw [List.lookup_cons, hne]
      rw [ih hnodup hn.2, hkeys, hfilter, set_new hk, List.map_append, hold, List.append_assoc,
        List.filter_cons_of_pos (by simpa using hk)]
      simp [hnone]
theorem nodup_eraseDups (ks : List κ) : ks.eraseDups.Nodup := by
  induction hn : ks.length using Nat.strongRecOn generalizing ks with
  | _ n ih =>
    cases ks with
    | nil => exact .nil
    | cons k ks =>
      have hshort : (ks.filter fun l => !l == k).length < n := by
        rw [← hn, List.length_cons]
        exact Nat.lt_succ_of_le (List.length_filter_le _ ks)
      rw [List.eraseDups_cons, List.nodup_cons]
      refine ⟨?_, ih _ hshort _ rfl⟩
      rw [List.mem_eraseDups, List.mem_filter]
      simp

theorem set_same {ks : List κ} {f : κ → α} (h : k ∈ ks) :
    set (ks.map fun k => (k, f k)) k (f k) = ks.map fun k => (k, f k) := by
  induction ks with
  | nil => cases h
  | cons l ks ih =>
    rw [List.map_cons, set]
    by_cases hl : l = k
    · rw [if_pos (beq_iff_eq.mpr hl), hl]
    · rw [if_neg (by simpa using hl), ih ((List.mem_cons.mp h).resolve_left (Ne.symm hl))]

theorem overlay_function (ks done : List κ) (f : κ → α) :
    overlay (done.map fun k => (k, f k)) (ks.map fun k => (k, f k)) =
      (done ++ (ks.filter fun k => !done.contains k).eraseDups).map fun k => (k, f k) := by
  induction ks generalizing done with
  | nil => simp [overlay]
  | cons k ks ih =>
    show overlay (set (done.map fun k => (k, f k)) k (f k)) (ks.map fun k => (k, f k)) = _
    by_cases hk : k ∈ done
    · rw [set_same hk, ih done, List.filter_cons_of_neg (by simp [hk])]
    · have hkeys : k ∉ (done.map fun k => (k, f k)).map (·.1) := by simpa using hk
      have happend : (done.map fun k => (k, f k)) ++ [(k, f k)] = (done ++ [k]).map fun k =>
        (k, f k) := by simp
      have hfilter : (ks.filter fun l => !(done ++ [k]).contains l) =
          (ks.filter fun l => !done.contains l).filter fun l => !l == k := by
        rw [List.filter_filter]
        refine List.filter_congr fun l _ => ?_
        by_cases hl : l = k
        · simp [hl]
        · simp [hl, List.mem_append]
      rw [set_new hkeys, happend, ih, List.filter_cons_of_pos (by simp [hk]), List.eraseDups_cons,
        hfilter]
      simp

/-- Keys with a value each: every key is where it comes first. -/
theorem ofList_function (ks : List κ) (f : κ → α) :
    ofList (ks.map fun k => (k, f k)) = ks.eraseDups.map fun k => (k, f k) := by
  have h := overlay_function ks [] f
  simp only [List.map_nil, List.contains_nil, Bool.not_false, List.filter_true,
    List.nil_append] at h
  exact h

theorem key_mem_set (m : Ordered κ α) (k : κ) (v : α) : k ∈ (set m k v).map (·.1) := by
  by_cases h : k ∈ m.map (·.1)
  · rwa [keys_set_of_mem h]
  · simp [set_new h]

theorem nodup_set (hm : (m.map (·.1)).Nodup) (k : κ) (v : α) : ((set m k v).map (·.1)).Nodup := by
  by_cases h : k ∈ m.map (·.1)
  · rwa [keys_set_of_mem h]
  · rw [set_new h, List.map_append, List.map_singleton]
    refine List.nodup_append.mpr ⟨hm, List.pairwise_singleton _ k, fun j hj i hi e => h ?_⟩
    have hi : i = k := List.mem_singleton.mp hi
    rwa [← hi, ← e]

theorem set_set (m : Ordered κ α) (k : κ) (u v : α) : set (set m k u) k v = set m k v := by
  induction m with
  | nil => exact if_pos (beq_iff_eq.mpr rfl)
  | cons p m ih =>
    rw [set, set]
    split
    · rename_i hp
      rw [set, if_pos hp]
    · rename_i hp
      rw [set, if_neg hp, ih]

/-- Where a key is there already, values under other keys can come first. -/
theorem set_comm {j : κ} (h : k ∈ m.map (·.1)) (hj : j ≠ k) (v u : α) :
    set (set m j u) k v = set (set m k v) j u := by
  induction m with
  | nil => cases h
  | cons p m ih =>
    by_cases hk : p.1 = k
    · have hpj : ¬ (p.1 == j) = true := fun e => hj ((eq_of_beq e).symm.trans hk)
      rw [set, if_neg hpj, set, if_pos (beq_iff_eq.mpr hk), set, if_pos (beq_iff_eq.mpr hk), set,
        if_neg hpj]
    · have hpk : ¬ (p.1 == k) = true := fun e => hk (eq_of_beq e)
      rw [List.map_cons, List.mem_cons] at h
      rw [show set (p :: m) k v = p :: set m k v from if_neg hpk, set]
      split
      · rename_i hpj
        rw [set, if_neg hpk, set, if_pos hpj]
      · rename_i hpj
        rw [set, if_neg hpk, set, if_neg hpj, ih (h.resolve_left (Ne.symm hk))]

theorem overlay_set_of_not_mem (h : k ∈ m.map (·.1)) (hn : k ∉ n.map (·.1)) (v : α) :
    overlay (set m k v) n = set (overlay m n) k v := by
  induction n generalizing m with
  | nil => rfl
  | cons p n ih =>
    rw [List.map_cons, List.mem_cons, not_or] at hn
    show overlay (set (set m k v) p.1 p.2) n = set (overlay (set m p.1 p.2) n) k v
    rw [← set_comm h (Ne.symm hn.1), ih (keys_set m p.1 p.2 h) hn.2]

/-- The last value laid over a map may be put into what is laid over it. -/
theorem overlay_set (hn : (n.map (·.1)).Nodup) (m : Ordered κ α) (k : κ) (v : α) :
    overlay m (set n k v) = set (overlay m n) k v := by
  induction n generalizing m with
  | nil => rfl
  | cons p n ih =>
    rw [List.map_cons, List.nodup_cons] at hn
    rw [set]
    split
    · rename_i hp
      rw [← eq_of_beq hp]
      show overlay (set m p.1 v) n = set (overlay (set m p.1 p.2) n) p.1 v
      rw [← overlay_set_of_not_mem (key_mem_set m p.1 p.2) hn.1, set_set]
    · exact ih hn.2 (set m p.1 p.2)

/-- Pairs laid over a map before it is laid over another one may as well come after that. -/
theorem overlay_overlay (hn : (n.map (·.1)).Nodup) (m : Ordered κ α) (ps : List (κ × α)) :
    overlay m (overlay n ps) = overlay (overlay m n) ps := by
  induction ps generalizing n with
  | nil => rfl
  | cons p ps ih =>
    show overlay m (overlay (set n p.1 p.2) ps) = overlay (set (overlay m n) p.1 p.2) ps
    rw [ih (nodup_set hn p.1 p.2), overlay_set hn]

/-- A map of pairs is laid over another one as the pairs are, one after the other. -/
theorem overlay_ofList (m : Ordered κ α) (ps : List (κ × α)) :
    overlay m (ofList ps) = overlay m ps :=
  overlay_overlay (n := []) .nil m ps

theorem nodup_ofList (ps : List (κ × α)) : ((ofList ps).map (·.1)).Nodup := by
  have hoverlay (m : Ordered κ α) (hm : (m.map (·.1)).Nodup) :
      ((overlay m ps).map (·.1)).Nodup := by
    induction ps generalizing m with
    | nil => exact hm
    | cons p ps ih => exact ih _ (nodup_set hm p.1 p.2)
  exact hoverlay [] .nil

end

/-- A map whose keys are texts, as a map of plain data. -/
def keyed (m : List (String × α)) : Ordered Data α := m.map fun p => (.str p.1, p.2)

theorem map_keyed (f : α → β) (m : List (String × α)) :
    (keyed m).map (fun p => (p.1, f p.2)) = keyed (m.map fun p => (p.1, f p.2)) := by
  simp [keyed]

theorem get?_keyed (m : List (String × α)) (k : String) : get? (keyed m) (.str k) = get? m k := by
  induction m with
  | nil => rfl
  | cons p m ih =>
    simp only [get?, keyed, List.map_cons, List.find?_cons, Data.str_beq] at ih ⊢
    split
    · rfl
    · exact ih

theorem set_keyed (m : List (String × α)) (k : String) (v : α) :
    set (keyed m) (.str k) v = keyed (set m k v) := by
  induction m with
  | nil => rfl
  | cons p m ih =>
    show (if (Data.str p.1 == .str k) then _ else _) = keyed (if p.1 == k then _ else _)
    rw [Data.str_beq]
    split
    · rfl
    · rw [show set (m.map fun p => (.str p.1, p.2)) (.str k) v = keyed (set m k v) from ih]
      rfl

theorem overlay_keyed (m n : List (String × α)) :
    overlay (keyed m) (keyed n) = keyed (overlay m n) := by
  induction n generalizing m with
  | nil => rfl
  | cons p n ih =>
    show overlay (set (keyed m) (.str p.1) p.2) (keyed n) = keyed (overlay (set m p.1 p.2) n)
    rw [set_keyed, ih]

theorem ofList_keyed (m : List (String × α)) : ofList (keyed m) = keyed (ofList m) :=
  overlay_keyed [] m

end Ordered

end Apidoc
