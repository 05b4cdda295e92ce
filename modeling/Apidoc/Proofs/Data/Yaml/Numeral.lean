import Apidoc.Proofs.Data.Yaml.Blocks
import Apidoc.Proofs.Text.Words

/-!
# Hexadecimal words without quotes

A word of hexadecimal digits that stands in a document without quotes is a text, unless all its
digits are those of a number in another base.

* `numeral?`             the number that such a word is taken for;
* `HexWord.ofPlain_eq`   a word is a number or a text;
* `HexWord.value_eq`     the value that it has;
* `HexWord.keyScans`     where it is a key, it is scanned as it stands.
-/

namespace Apidoc.Yaml

variable {cs : List Char} {n : Nat}

def hexDigits : List Char := "0123456789abcdef".toList

theorem forall_of_all {p : Char → Prop} [DecidablePred p]
    (h : (cs.all fun c => decide (p c)) = true) :
    ∀ c ∈ cs, p c := fun c hc => of_decide_eq_true (List.all_eq_true.mp h c hc)

def inBase? (base : Nat) (ds : List Char) : Option Nat :=
  if ds.all fun c => c.isDigit && c.toNat - 48 < base then
    some (Nat.ofDigitChars base ds 0) else none

/-- The number that a word is taken for: binary digits after `0b`, octal digits after a zero, or
decimal digits. -/
def numeral? : List Char → Option Nat
  | '0' :: 'b' :: ds => inBase? 2 ds
  | '0' :: ds => inBase? 8 ds
  | ds => inBase? 10 ds

theorem isSome_inBase? (base : Nat) (ds : List Char) :
    (inBase? base ds).isSome = ds.all fun c => c.isDigit && decide (c.toNat - 48 < base) := by
  rw [inBase?]
  split
  · rename_i h
    exact h.symm
  · rename_i h
    exact (Bool.eq_false_iff.mpr h).symm

/-! ## forms without a point -/

theorem isWord_of_not_mem {ws : List String} {c : Char} (hws : ∀ w ∈ ws, c ∈ w.toList)
    (h : c ∉ cs) : isWord ws cs = false := by
  rw [isWord, List.any_eq_false]
  intro w hw heq
  exact h (beq_iff_eq.mp heq ▸ hws w hw)

theorem mem_of_mem_dropSign {c : Char} (h : c ∈ dropSign cs) : c ∈ cs := by
  unfold dropSign at h
  split at h
  · exact List.mem_cons_of_mem _ h
  · exact List.mem_cons_of_mem _ h
  · exact h

/-- A number without a point is whole. -/
theorem isFloatForm_of_not_mem (h : '.' ∉ cs) : isFloatForm cs = false := by
  have hbody : '.' ∉ dropSign cs := fun hmem => h (mem_of_mem_dropSign hmem)
  have hdrop (p : Char → Bool) (ds : List Char) : (dropSign cs).dropWhile p ≠ '.' :: ds := fun e =>
    hbody ((List.dropWhile_sublist p).subset (e ▸ List.mem_cons_self))
  have hfraction : isFraction ((dropSign cs).dropWhile isDigitOrBar) = false := by
    unfold isFraction
    split
    · rename_i ds hds
      exact absurd hds (hdrop _ ds)
    · rfl
  have hsixty : isSixtyFloat (dropSign cs) = false := by
    rw [isSixtyFloat, Bool.and_eq_false_iff]
    right
    split
    · rename_i ds hds
      exact absurd hds (hdrop _ ds)
    · rfl
  have hinfinity : isInfinityForm cs = false := isWord_of_not_mem (c := '.') (by decide) hbody
  have hnan : isNanForm cs = false := isWord_of_not_mem (c := '.') (by decide) h
  simp only [isFloatForm, hfraction, Bool.and_false, Bool.false_or, hsixty, hinfinity, hnan,
    Bool.or_false]
  split
  · exact absurd List.mem_cons_self h
  · rfl

/-- Hexadecimal digits, and too many of them for a word with a meaning. -/
structure HexWord (cs : List Char) : Prop where
  digits : ∀ c ∈ cs, c ∈ hexDigits
  long : 5 < cs.length

namespace HexWord

theorem not_mem (h : HexWord cs) {c : Char} (hc : hexDigits.contains c = false) : c ∉ cs :=
  fun hmem => by
  rw [List.contains_iff_mem.mpr (h.digits c hmem)] at hc
  cases hc

theorem head?_ne (h : HexWord cs) {c : Char} (hc : hexDigits.contains c = false) :
    cs.head? ≠ some c := fun hhead =>
  h.not_mem hc (List.mem_of_mem_head? hhead)

/-! ## forms that the word does not have -/

theorem isWord_eq (h : HexWord cs) {ws : List String} (hws : ∀ w ∈ ws, w.toList.length ≤ 5) :
    isWord ws cs = false := by
  rw [isWord, List.any_eq_false]
  intro w hw heq
  have hshort := hws w hw
  rw [beq_iff_eq.mp heq] at hshort
  exact absurd hshort (Nat.not_le.mpr h.long)

theorem dropSign_eq (h : HexWord cs) : dropSign cs = cs := by
  unfold dropSign
  split
  · exact absurd rfl (h.head?_ne (c := '+') (by decide))
  · exact absurd rfl (h.head?_ne (c := '-') (by decide))
  · rfl

theorem isSixtyForm_eq (h : HexWord cs) : isSixtyForm cs = false := by
  rw [isSixtyForm, Text.splitOn_of_not_mem (h.not_mem (by decide))]

theorem isFloatForm_eq (h : HexWord cs) : isFloatForm cs = false :=
  isFloatForm_of_not_mem (h.not_mem (by decide))

theorem snd_number? {least most : Nat} {p : Nat × List Char} (hp : number? least most cs = some p) :
    p.2 <:+ cs := by
  unfold number? at hp
  dsimp only at hp
  split at hp
  · cases hp
    exact List.drop_suffix _ cs
  · cases hp

theorem isTimestampForm_eq (h : HexWord cs) : isTimestampForm cs = false := by
  have htime : timeText? cs = none := by
    cases hnumber : number? 4 4 cs with
    | none => rw [timeText?, hnumber]; rfl
    | some p =>
      have hdash : expect? '-' p.2 = none := by
        unfold expect?
        split
        · rename_i d ds hds
          refine if_neg fun e => h.not_mem (c := '-') (by decide) ?_
          exact (snd_number? hnumber).subset (hds ▸ e ▸ List.mem_cons_self)
        · rfl
      rw [timeText?, hnumber]
      simp [hdash]
  rw [isTimestampForm, htime]

/-! ## numbers -/

theorem all_congr {p q : Char → Bool} (hpq : ∀ c ∈ hexDigits, p c = q c)
    (hcs : ∀ c ∈ cs, c ∈ hexDigits) : cs.all p = cs.all q := by
  induction cs with
  | nil => rfl
  | cons c cs ih =>
    rw [List.forall_mem_cons] at hcs
    rw [List.all_cons, List.all_cons, hpq c hcs.1, ih hcs.2]

theorem isIntForm_eq (h : HexWord cs) : isIntForm cs = (numeral? cs).isSome := by
  have hbinary : ∀ c ∈ hexDigits, (c == '0' || c == '1' || c == '_') =
    (c.isDigit && decide (c.toNat - 48 < 2)) :=
    forall_of_all (by decide)
  have hoctal : ∀ c ∈ hexDigits, (decide ('0' ≤ c) && decide (c ≤ '7') || c == '_') =
      (c.isDigit && decide (c.toNat - 48 < 8)) := forall_of_all (by decide)
  have hdecimal : ∀ c ∈ hexDigits, c.isDigit = (c.isDigit && decide (c.toNat - 48 < 10)) ∧
      isDigitOrBar c = (c.isDigit && decide (c.toNat - 48 < 10)) := forall_of_all (by decide)
  have hhex : isHexForm cs = false := isHexForm.eq_2 cs fun ds e =>
    h.not_mem (c := 'x') (by decide) (by simp [e])
  have hlong := h.long
  have hdigits := h.digits
  simp only [isIntForm, h.dropSign_eq, hhex, h.isSixtyForm_eq, Bool.false_and, Bool.or_false]
  unfold numeral?
  split
  · rename_i ds
    rw [List.forall_mem_cons, List.forall_mem_cons] at hdigits
    have hne : ds.isEmpty = false := List.isEmpty_eq_false_iff.mpr fun e => by simp [e] at hlong
    rw [isSome_inBase?, ← all_congr hbinary hdigits.2.2]
    simp [isBinaryForm, isOctalForm, isDecimalForm, hne]
  · rename_i ds hds
    rw [List.forall_mem_cons] at hdigits
    have hne : ds.isEmpty = false := List.isEmpty_eq_false_iff.mpr fun e => by simp [e] at hlong
    have hnot : isBinaryForm ('0' :: ds) = false :=
      isBinaryForm.eq_2 _ fun es e => hds es (List.cons.inj e).2
    rw [isSome_inBase?, ← all_congr hoctal hdigits.2, hnot]
    simp [isOctalForm, isDecimalForm, hne]
  · rename_i hbare hzero
    obtain ⟨d, ds, rfl⟩ := List.exists_cons_of_length_pos (l := cs) (by omega)
    rw [List.forall_mem_cons] at hdigits
    have hd : (d :: ds).head? ≠ some '0' := fun e => hzero ds (by rw [Option.some.inj e])
    have hone : ((d :: ds) == ['0']) = false := beq_eq_false_iff_ne.mpr (hzero [])
    rw [isSome_inBase?, List.all_cons, ← (hdecimal d hdigits.1).1,
      ← all_congr (fun c hc => (hdecimal c hc).2) hdigits.2, isBinaryForm.eq_2 _ hbare,
      isOctalForm.eq_2 _ hzero, isDecimalForm, isDigits, bne_iff_ne.mpr hd, hone]
    simp only [Bool.false_or, Bool.and_true]

theorem ofPlain_eq (h : HexWord cs) :
    Tag.ofPlain cs = if (numeral? cs).isSome then .int else .str := by
  have htruth : isWord truths cs = false := h.isWord_eq (by decide)
  have hfalsehood : isWord falsehoods cs = false := h.isWord_eq (by decide)
  have hnull : isWord nulls cs = false := h.isWord_eq (by decide)
  have hmerge : isWord ["<<"] cs = false := h.isWord_eq (by decide)
  have hdefault : isWord ["="] cs = false := h.isWord_eq (by decide)
  simp only [Tag.ofPlain, htruth, hfalsehood, hnull, hmerge, hdefault, h.isFloatForm_eq,
    h.isTimestampForm_eq, h.isIntForm_eq, Bool.or_false, Bool.false_eq_true, if_false]

theorem natInBase_eq {base : Nat} (hbase : base ≤ 10) {ds shown : List Char}
    (hds : ∀ c ∈ ds, c ∈ hexDigits) (hne : ds ≠ []) (hshort : ds.length ≤ 4300)
    (hn : inBase? base ds = some n) : natInBase base shown ds = .ok n := by
  have hdigit : ∀ b < 11,
    (hexDigits.all fun c => decide ((c.isDigit && decide (c.toNat - 48 < b)) = true →
      digitValue? b c = some (c.toNat - 48))) = true := by decide
  have hall := isSome_inBase? base ds
  rw [hn, Option.isSome_some, eq_comm, List.all_eq_true] at hall
  have hvalue : ∀ c ∈ ds, digitValue? base c = some (c.toNat - 48) := fun c hc =>
    forall_of_all (hdigit base (by omega)) c (hds c hc) (hall c hc)
  have hgood : (!ds.isEmpty && ds.all fun c => (digitValue? base c).isSome) = true := by
    rw [List.isEmpty_eq_false_iff.mpr hne, Bool.not_false, Bool.true_and, List.all_eq_true]
    intro c hc
    rw [hvalue c hc]
    rfl
  have hfold : ds.foldl (fun n c => base * n + (digitValue? base c).getD 0) 0 = n := by
    rw [inBase?, if_pos (List.all_eq_true.mpr hall)] at hn
    rw [← Option.some.inj hn, Nat.ofDigitChars]
    refine List.foldl_ext _ _ 0 fun n c hc => ?_
    rw [hvalue c hc]
    rfl
  rw [natInBase, if_pos hgood, if_neg (by omega), hfold]

theorem intValue_eq (h : HexWord cs) (hshort : cs.length ≤ 4300) (hn : numeral? cs = some n) :
    intValue cs = .ok (.int n) := by
  have hbar : cs.filter (· != '_') = cs :=
    List.filter_eq_self.mpr fun c hc => bne_iff_ne.mpr fun e => h.not_mem (by decide) (e ▸ hc)
  have hsign : hasSign cs = false := beq_eq_false_iff_ne.mpr (h.head?_ne (by decide))
  have hlong := h.long
  have hdigits := h.digits
  have hne : cs.isEmpty = false := List.isEmpty_eq_false_iff.mpr fun e => by simp [e] at hlong
  simp only [intValue, hbar, hne, h.dropSign_eq, hsign, Bool.false_eq_true, if_false]
  have hcolon : cs.contains ':' = false := by
    rw [Bool.eq_false_iff, ne_eq, List.contains_iff_mem]
    exact h.not_mem (by decide)
  split
  · simp at hlong
  · rename_i ds
    rw [List.forall_mem_cons, List.forall_mem_cons] at hdigits
    simp only [List.length_cons] at hlong hshort
    rw [natInBase_eq (by decide) hdigits.2.2 (by rintro rfl; simp at hlong) (by omega) hn]
    rfl
  · exact absurd (by simp) (h.not_mem (c := 'x') (by decide))
  · rename_i ds _ hb _
    rw [List.forall_mem_cons] at hdigits
    rw [numeral?.eq_2 ds hb] at hn
    simp only [List.length_cons] at hlong hshort
    rw [natInBase_eq (by decide) hdigits.2 (by rintro rfl; simp at hlong) (by omega) hn]
    rfl
  · simp at hlong
  · rename_i _ hb _ hzero _
    rw [numeral?.eq_3 cs hb hzero] at hn
    rw [hcolon, if_neg (by decide),
      natInBase_eq (by decide) hdigits (by rintro rfl; simp at hlong) hshort hn]
    rfl

theorem value_eq (h : HexWord cs) (hshort : cs.length ≤ 4300) : (Tag.ofPlain cs).value cs =
    .ok (match numeral? cs with | some n => .int n | none => .str (String.ofList cs)) := by
  rw [h.ofPlain_eq]
  cases hn : numeral? cs with
  | some n => exact h.intValue_eq hshort hn
  | none => rfl

/-! ## keys -/

theorem hasMark_eq (hcolon : ':' ∉ cs) (hspace : ' ' ∉ cs) : hasMark cs = false := by
  induction cs with
  | nil => rfl
  | cons c cs ih =>
    rw [List.mem_cons, not_or] at hcolon hspace
    rw [hasMark, beq_eq_false_iff_ne.mpr (Ne.symm hcolon.1),
      beq_eq_false_iff_ne.mpr (Ne.symm hspace.1), ih hcolon.2 hspace.2]
    rfl

theorem bare (h : HexWord cs) : Plain.Bare cs where
  nonempty hnil := by
    have hlong := h.long
    simp [hnil] at hlong
  ascii c hc := by
    have hascii : ∀ c ∈ hexDigits, isAsciiText c = true := forall_of_all (by decide)
    exact hascii c (h.digits c hc)
  start := ⟨h.head?_ne (by decide), h.head?_ne (by decide)⟩
  last hlast := h.not_mem (c := ' ') (by decide) (List.mem_of_getLast? hlast)
  noMark := hasMark_eq (h.not_mem (by decide)) (h.not_mem (by decide))

theorem startsStructure_eq (h : HexWord cs) : startsStructure cs = false := by
  have hstart : ∀ c ∈ hexDigits, isIndicator c = false ∧ c ≠ '?' ∧ c ≠ '-' ∧ c ≠ '.' :=
    forall_of_all (by decide)
  obtain ⟨c, ds, rfl⟩ := List.exists_cons_of_length_pos (l := cs) (by have := h.long; omega)
  obtain ⟨hindicator, hquestion, hdash, hdot⟩ := hstart c (h.digits c List.mem_cons_self)
  simp [startsStructure, Text.isPrefix, Text.dropWord?, hindicator, hquestion, hdash, Ne.symm hdash,
    Ne.symm hdot]

theorem keyScans (h : HexWord cs) (hshort : cs.length ≤ 1024) :
    Blocks.KeyScans cs (.scalar cs true) :=
  Blocks.keyScans_bare h.bare hshort h.startsStructure_eq

end HexWord

end Apidoc.Yaml
