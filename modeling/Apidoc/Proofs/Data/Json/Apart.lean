import Apidoc.Proofs.Data.Json
import Apidoc.Proofs.Data.Json.Values
import Apidoc.Proofs.Data.Ordered

/-!
# Texts among values

* `Json.startsBare_write`   only a text is written with a quote first;
* `Json.str_of_write`       where what is written for a value begins as what is written for a text,
                            the value is that text;
* `Json.exists_frame`       around the value of a field of a map the same is written whatever the
                            value is.
-/

namespace Apidoc.Json

/-! ## numbers -/

theorem quote_not_mem_digits (n : Nat) : '"' ∉ Nat.toDigits 10 n := by
  intro h
  have hdigit := Nat.isDigit_of_mem_toDigits (by decide) (by decide) h
  revert hdigit
  decide

theorem quote_not_mem_exponent (e : Int) : '"' ∉ Binary64.exponentText e := by
  have hdigits := quote_not_mem_digits e.natAbs
  unfold Binary64.exponentText Binary64.digitsText
  dsimp only
  split <;> split <;> simpa using hdigits

theorem quote_not_mem_decimal {whole : List Char} (hwhole : '"' ∉ whole) (d : Nat) (e : Int) :
    '"' ∉ Binary64.decimalText whole d e := by
  have hdigits := quote_not_mem_digits d
  unfold Binary64.decimalText Binary64.digitsText
  generalize Nat.toDigits 10 d = ds at hdigits
  dsimp only
  split
  · rw [List.mem_append, List.mem_cons]
    rintro (h | h | h)
    · split at h
      · cases h
      · exact hdigits h
      · rename_i c cs
        simp only [List.mem_cons] at h hdigits
        rcases h with h | h | h
        · exact hdigits (.inl h)
        · cases h
        · exact hdigits (.inr h)
    · cases h
    · exact quote_not_mem_exponent _ h
  · split
    · simp [hdigits]
    · split
      · simp [hdigits, hwhole]
      · rw [List.mem_append, List.mem_cons]
        rintro (h | h | h)
        · exact hdigits (List.mem_of_mem_take h)
        · cases h
        · exact hdigits (List.mem_of_mem_drop h)

theorem decimalText_ne_nil {whole : List Char} (hwhole : whole ≠ []) (d : Nat) (e : Int) :
    Binary64.decimalText whole d e ≠ [] := by
  unfold Binary64.decimalText
  dsimp only
  split
  · simp
  · split
    · simp
    · split
      · simp [hwhole]
      · simp

def StartsBare (cs : List Char) : Prop := ∃ c ds, cs = c :: ds ∧ c ≠ '"'

theorem StartsBare.of_not_mem {cs : List Char} (hne : cs ≠ []) (h : '"' ∉ cs) : StartsBare cs := by
  cases cs with
  | nil => exact absurd rfl hne
  | cons c cs => exact ⟨c, cs, rfl, fun e => h (e ▸ List.mem_cons_self)⟩

theorem startsBare_float (x : Binary64) : StartsBare (floatText x).toList := by
  cases x with
  | nan => exact ⟨'N', _, rfl, by decide⟩
  | infinite neg =>
    cases neg with
    | false => exact ⟨'I', _, rfl, by decide⟩
    | true => exact ⟨'-', _, rfl, by decide⟩
  | finite neg m q =>
    rw [floatText, Binary64.textWith, String.toList_append, String.toList_ofList]
    cases neg with
    | false => exact .of_not_mem (decimalText_ne_nil (by decide) _ _) (quote_not_mem_decimal
        (by decide) _ _)
    | true => exact ⟨'-', _, rfl, by decide⟩

theorem startsBare_int (n : Int) : StartsBare (toString n).toList := by
  cases n with
  | ofNat m =>
    have hrepr : (toString (Int.ofNat m)).toList = Nat.toDigits 10 m := Nat.toList_repr
    rw [hrepr]
    exact .of_not_mem (Nat.toDigits_ne_nil) (quote_not_mem_digits m)
  | negSucc m =>
    have hrepr : (toString (Int.negSucc m)).toList = '-' :: (Nat.repr (m + 1)).toList :=
      String.toList_append
    exact ⟨'-', _, hrepr, by decide⟩

/-! ## texts -/

theorem startsBare_andThen {bracket : String} {w : Written} (h : StartsBare bracket.toList) :
    StartsBare ((Written.done bracket).andThen w).text.toList := by
  obtain ⟨c, ds, hopen, hc⟩ := h
  refine ⟨c, ds ++ w.text.toList, ?_, hc⟩
  show (bracket ++ w.text).toList = _
  rw [String.toList_append, hopen]
  rfl

/-- Only a text is written with a quote first. -/
theorem startsBare_write {v : Data} (hv : Writable v) (hstr : ∀ s, v ≠ .str s) (level : Nat) :
    StartsBare (write level v).text.toList := by
  cases hv with
  | null =>
    rw [write]
    exact ⟨'n', _, rfl, by decide⟩
  | bool b =>
    rw [write]
    cases b with
    | false => exact ⟨'f', _, rfl, by decide⟩
    | true => exact ⟨'t', _, rfl, by decide⟩
  | int n =>
    rw [write]
    exact startsBare_int n
  | float x =>
    rw [write]
    exact startsBare_float x
  | str s => exact absurd rfl (hstr s)
  | @list xs h =>
    rw [write]
    split
    · exact ⟨'[', _, rfl, by decide⟩
    · exact startsBare_andThen ⟨'[', _, String.toList_append, by decide⟩
  | @map ps hkeys h =>
    rw [write]
    split
    · exact ⟨'\x7b', _, rfl, by decide⟩
    · exact startsBare_andThen ⟨'\x7b', _, String.toList_append, by decide⟩

/-- What is written for a text ends by itself. -/
theorem stringText_split (s : String) (rest : List Char) :
    (stringText s).toList ++ rest = '"' :: (s.toList.flatMap charText ++ '"' :: rest) := by
  rw [toList_stringText]
  simp

theorem str_of_write {v : Data} (hv : Writable v) {level : Nat} {s : String} {rest ds : List Char}
    (h : (write level v).text.toList ++ rest = (stringText s).toList ++ ds) :
    v = .str s ∧ rest = ds := by
  by_cases hstr : ∃ t, v = .str t
  · obtain ⟨t, rfl⟩ := hstr
    have htexts : (stringText t).toList ++ rest = (stringText s).toList ++ ds := by
      rwa [write] at h
    rw [stringText_split, stringText_split] at htexts
    have hread := readString_text t rest
    rw [(List.cons.inj htexts).2, readString_text] at hread
    cases hread
    exact ⟨rfl, rfl⟩
  · obtain ⟨c, cs, hcs, hc⟩ := startsBare_write hv (fun t ht => hstr ⟨t, ht⟩) level
    rw [hcs, stringText_split] at h
    exact absurd (List.cons.inj h).1 hc

theorem toList_andThen {a : Written} {cs : List Char} (ha : Prints a cs) (b : Written) :
    (a.andThen b).text.toList = cs ++ b.text.toList := by
  rw [Written.andThen, if_pos ha.1]
  exact (String.toList_append ..).trans (congrArg (· ++ _) ha.2)

theorem toList_writeItems {x : Data} {level : Nat} {cs : List Char} (hx : Prints (write level x) cs)
    (first : Bool) (xs : List Data) : (writeItems level first (x :: xs)).text.toList =
      (itemBreak first level).toList ++ (cs ++ (writeItems level false xs).text.toList) := by
  rw [writeItems, toList_andThen (.done _), toList_andThen hx]

theorem items_of_render {xs ys : List Data} (hxs : ∀ x ∈ xs, Writable x)
    (hys : ∀ y ∈ ys, Writable y) (hne : xs ≠ []) (hne' : ys ≠ [])
    (h : (render (.list xs)).text = (render (.list ys)).text) :
    (writeItems 1 true xs).text.toList = (writeItems 1 true ys).text.toList := by
  have hrender {xs : List Data} (hxs : ∀ x ∈ xs, Writable x) (hne : xs ≠ []) :
    (render (.list xs)).text.toList =
      ("[" ++ lineStart 1).toList ++ ((writeItems 1 true xs).text.toList ++
        (lineStart 0 ++ "]").toList) := by
    have hitems : Prints (writeItems 1 true xs) (writeItems 1 true xs).text.toList :=
      ⟨complete_writeItems (fun x hx => complete_write (hxs x hx) 1) true, rfl⟩
    rw [render, write, if_neg (by simpa using hne), toList_andThen (.done _), toList_andThen hitems]
    rfl
  have hlists := congrArg String.toList h
  rw [hrender hxs hne, hrender hys hne'] at hlists
  exact List.append_cancel_right (List.append_cancel_left hlists)

/-! ## one field of a map -/

theorem prints_write {v : Data} (hv : Writable v) (level : Nat) :
    Prints (write level v) (write level v).text.toList :=
  ⟨complete_write hv level, rfl⟩

theorem Writable.object {fields : List (String × Data)} (h : ∀ f ∈ fields, Writable f.2) :
    Writable (.object fields) := by
  refine .of_pairs ?_
  rw [List.forall_mem_map]
  exact fun f hf => ⟨rfl, h f hf⟩

theorem writePairs_keyed (level : Nat) (first : Bool) (f : String × Data)
    (fields : List (String × Data)) :
    writePairs level first (Ordered.keyed (f :: fields)) =
      (Written.done (itemBreak first level ++ stringText f.1 ++ ": ")).andThen
        ((write level f.2).andThen (writePairs level false (Ordered.keyed fields))) := by
  show writePairs level first ((.str f.1, f.2) :: Ordered.keyed fields) = _
  rw [writePairs]
  rfl

/-- Around the value of a field the same is written whatever the value is. -/
theorem exists_frame_pairs {before after : List (String × Data)}
    (hbefore : ∀ f ∈ before, Writable f.2) (hafter : ∀ f ∈ after, Writable f.2) (k : String)
    (level : Nat) (first : Bool) :
    ∃ front back : List Char, ∀ v, Writable v →
      Prints (writePairs level first (Ordered.keyed (before ++ (k, v) :: after)))
        (front ++ ((write level v).text.toList ++ back)) := by
  induction before generalizing first with
  | nil =>
    have hpairs : Prints (writePairs level false (Ordered.keyed after))
        (writePairs level false (Ordered.keyed after)).text.toList := by
      refine ⟨complete_writePairs ?_ ?_ false, rfl⟩
      · rw [Ordered.keyed, List.forall_mem_map]
        exact fun f _ => rfl
      · rw [Ordered.keyed, List.forall_mem_map]
        exact fun f hf => complete_write (hafter f hf) level
    refine ⟨(itemBreak first level ++ stringText k ++ ": ").toList,
      (writePairs level false (Ordered.keyed after)).text.toList, fun v hv => ?_⟩
    rw [List.nil_append, writePairs_keyed]
    exact (Prints.done _).andThen ((prints_write hv level).andThen hpairs)
  | cons f before ih =>
    rw [List.forall_mem_cons] at hbefore
    obtain ⟨front, back, hframe⟩ := ih hbefore.2 false
    refine ⟨(itemBreak first level ++ stringText f.1 ++ ": ").toList ++
      ((write level f.2).text.toList ++ front), back,
      fun v hv => ?_⟩
    rw [List.cons_append, writePairs_keyed]
    have hprints := (Prints.done (itemBreak first level ++ stringText f.1 ++ ": ")).andThen
      ((prints_write hbefore.1 level).andThen (hframe v hv))
    simpa only [List.append_assoc] using hprints

theorem exists_frame {before after : List (String × Data)} (hbefore : ∀ f ∈ before, Writable f.2)
    (hafter : ∀ f ∈ after, Writable f.2) (k : String) (level : Nat) :
    ∃ front back : List Char, ∀ v, Writable v →
      Prints (write level (.object (before ++ (k, v) :: after)))
        (front ++ ((write (level + 1) v).text.toList ++ back)) := by
  obtain ⟨front, back, hframe⟩ := exists_frame_pairs hbefore hafter k (level + 1) true
  refine ⟨("\x7b" ++ lineStart (level + 1)).toList ++ front, back ++
    (lineStart level ++ "\x7d").toList, fun v hv => ?_⟩
  have hprints := (Prints.done ("\x7b" ++ lineStart (level + 1))).andThen
    ((hframe v hv).andThen (Prints.done (lineStart level ++ "\x7d")))
  have hne : (Ordered.keyed (before ++ (k, v) :: after)).isEmpty = false := by simp [Ordered.keyed]
  show Prints (write level (.map (Ordered.keyed (before ++ (k, v) :: after)))) _
  rw [write, hne, if_neg (by decide)]
  simpa only [List.append_assoc] using hprints

end Apidoc.Json
