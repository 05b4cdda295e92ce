import Apidoc.Proofs.Selection.Choices
import Apidoc.Proofs.Text.Normal
import Apidoc.Proofs.Text.Words
import Apidoc.Selection.Chooser
import Mathlib.Data.List.Nodup
import Mathlib.Data.List.Perm.Subperm
import Mathlib.Data.Nat.Digits.Defs

/-!
# References to entries

A reference is a number of the list or the start of an id.  A text that is a number in the list is
never taken for the start of an id, so an id of decimal digits only may refer to another entry.

* `Digits`, `Denotes`     how a number is written;
* `number?_eq_some_iff`   just these texts are read as numbers;
* `denotes_padded`        the number of a row, with blanks around and perhaps a plus sign;
* `denotes_id_iff`        an id is a number if it has decimal digits only;
* `references_resolve`    what a reference finds.
-/

namespace Apidoc.Chooser

/-! ## how a number is written -/

/-- White space, but for the four separators U+001C to U+001F. -/
def isPadding (c : Char) : Bool := Text.isBlank c && !(28 ≤ c.toNat && c.toNat ≤ 31)

/-- Digits of any script with their values; single underscores may stand between them. -/
inductive Digits : List Char → List Nat → Prop where
  | last {c : Char} {d : Nat} (hc : Text.decimalDigit? c = some d) : Digits [c] [d]
  | next {c : Char} {d : Nat} {cs : List Char} {ds : List Nat} (hc : Text.decimalDigit? c = some d)
    (hcs : Digits cs ds) : Digits (c :: cs) (d :: ds)
  | joined {c : Char} {d : Nat} {cs : List Char} {ds : List Nat}
      (hc : Text.decimalDigit? c = some d)
    (hcs : Digits cs ds) : Digits (c :: '_' :: cs) (d :: ds)

def value (ds : List Nat) : Nat := ds.foldl (fun n d => 10 * n + d) 0

/-- A number stands between blanks: perhaps a sign, and digits, not too many. -/
def Denotes (s : String) (n : Int) : Prop :=
  ∃ front sign cs back ds, s.toList = front ++ (sign ++ cs) ++ back ∧
    (∀ c ∈ front ++ back, isPadding c = true) ∧
    Digits cs ds ∧ ds.length ≤ maxReadDigits ∧
    ((sign = [] ∨ sign = ['+']) ∧ n = value ds ∨ sign = ['-'] ∧ n = -(value ds : Int))

theorem isNumberBlank_eq (c : Char) : isNumberBlank c = isPadding c := by
  have hspace : (c == ' ') = decide (c.toNat = 32) := by
    rw [Bool.eq_iff_iff, beq_iff_eq, decide_eq_true_eq]
    exact ⟨fun h => h ▸ rfl, fun h => Char.toNat_inj.1 h⟩
  rw [isNumberBlank, isPadding, Text.isBlank, hspace, Bool.eq_iff_iff]
  split <;> simp <;> omega

theorem not_isNumberBlank_of_digit {c : Char} {d : Nat} (h : Text.decimalDigit? c = some d) :
    isNumberBlank c = false := by
  have htable : ∀ p ∈ Text.Table.digits,
      0xa0 < p.1 ∧ (p.2 < 0x1680 ∨ 0x1680 < p.1 ∧ p.2 < 0x2000 ∨ 0x3000 < p.1) := by
    unfold Text.Table.digits
    rw [Text.Ranges.ofText_ofList]
    decide +kernel
  rw [isNumberBlank_eq, Bool.eq_false_iff]
  intro hblank
  simp only [isPadding, Text.isBlank, Bool.and_eq_true, Bool.or_eq_true, Bool.not_eq_true',
    Bool.and_eq_false_iff, decide_eq_true_eq, decide_eq_false_iff_not, beq_iff_eq] at hblank
  unfold Text.decimalDigit? at h
  split at h
  · split at h
    · next hdigit =>
      obtain ⟨hlo, hhi⟩ := Char.isDigit_iff_toNat.1 hdigit
      have hzero : '0'.toNat = 48 := rfl
      have hnine : '9'.toNat = 57 := rfl
      omega
    · cases h
  · obtain ⟨p, hp, -⟩ := Option.map_eq_some_iff.1 h
    have hrange := List.find?_some hp
    have hp := htable p (List.mem_of_find?_eq_some hp)
    simp only [Bool.and_eq_true, decide_eq_true_eq] at hrange
    omega

theorem Digits.exists_head {cs : List Char} {ds : List Nat} (h : Digits cs ds) :
    ∃ c rest d, cs = c :: rest ∧ Text.decimalDigit? c = some d := by
  cases h with
  | last hc => exact ⟨_, _, _, rfl, hc⟩
  | next hc _ => exact ⟨_, _, _, rfl, hc⟩
  | joined hc _ => exact ⟨_, _, _, rfl, hc⟩

theorem digits?_eq_some_iff {cs : List Char} {ds : List Nat} :
    digits? cs = some ds ↔ Digits cs ds := by
  constructor
  · intro h
    fun_induction digits? cs generalizing ds with
    | case1 => cases h
    | case2 c =>
      obtain ⟨d, hd, rfl⟩ := Option.map_eq_some_iff.1 h
      exact .last hd
    | case3 c cs ih =>
      obtain ⟨d, hd, h⟩ := Option.bind_eq_some_iff.1 h
      obtain ⟨ds', hds, h⟩ := Option.bind_eq_some_iff.1 h
      cases h
      exact .joined hd (ih hds)
    | case4 c cs _ _ ih =>
      obtain ⟨d, hd, h⟩ := Option.bind_eq_some_iff.1 h
      obtain ⟨ds', hds, h⟩ := Option.bind_eq_some_iff.1 h
      cases h
      exact .next hd (ih hds)
  · intro h
    induction h with
    | last hc => rw [digits?, hc]; rfl
    | next hc hcs ih =>
      obtain ⟨c, rest, d, rfl, hd⟩ := hcs.exists_head
      have hbar : c ≠ '_' := by
        rintro rfl
        cases hd
      rw [digits?, hc, ih]
      · rfl
      · exact nofun
      · exact fun _ heq => hbar (List.cons.inj heq).1
    | joined hc hcs ih => rw [digits?, hc, ih]; rfl

theorem natural?_eq_some_iff {cs : List Char} {m : Nat} :
    natural? cs = some m ↔ ∃ ds, Digits cs ds ∧ ds.length ≤ maxReadDigits ∧ value ds = m := by
  rw [natural?]
  constructor
  · intro h
    split at h
    · next ds hds =>
      split at h
      · next hshort => exact ⟨ds, digits?_eq_some_iff.1 hds, hshort, Option.some.inj h⟩
      · cases h
    · cases h
  · rintro ⟨ds, hds, hshort, rfl⟩
    rw [digits?_eq_some_iff.2 hds]
    exact if_pos hshort

/-! ## blanks around a number -/

theorem dropWhile_around {p : Char → Bool} {front core : List Char}
    (hfront : ∀ c ∈ front, p c = true) (hcore : ∀ c ∈ core, p c = false) (hne : core ≠ [])
    (rest : List Char) : (front ++ (core ++ rest)).dropWhile p = core ++ rest := by
  obtain ⟨c, cs, rfl⟩ := List.exists_cons_of_ne_nil hne
  rw [List.dropWhile_append_of_pos hfront]
  exact List.dropWhile_cons_of_neg (Bool.eq_false_iff.1 (hcore c List.mem_cons_self))

theorem trimNumber_around {front core back : List Char}
    (hblank : ∀ c ∈ front ++ back, isNumberBlank c = true)
    (hcore : ∀ c ∈ core, isNumberBlank c = false) (hne : core ≠ []) :
    trimNumber (front ++ core ++ back) = core := by
  obtain ⟨hfront, hback⟩ := List.forall_mem_append.1 hblank
  have hend : ∀ c ∈ back.reverse, isNumberBlank c = true :=
    fun c hc => hback c (List.mem_reverse.1 hc)
  have hreverse : ∀ c ∈ core.reverse, isNumberBlank c = false :=
    fun c hc => hcore c (List.mem_reverse.1 hc)
  have hdrop := dropWhile_around hend hreverse (mt List.reverse_eq_nil_iff.1 hne) []
  rw [List.append_nil] at hdrop
  rw [trimNumber, List.append_assoc, dropWhile_around hfront hcore hne, Text.dropWhileEnd,
    List.reverse_append, hdrop, List.reverse_reverse]

theorem exists_trimNumber (cs : List Char) :
    ∃ front back, cs = front ++ trimNumber cs ++ back ∧
    ∀ c ∈ front ++ back, isNumberBlank c = true := by
  have hend : ∀ l : List Char,
      l = Text.dropWhileEnd isNumberBlank l ++ (l.reverse.takeWhile isNumberBlank).reverse :=
        fun l => by
    rw [Text.dropWhileEnd, ← List.reverse_append, List.takeWhile_append_dropWhile,
      List.reverse_reverse]
  refine ⟨cs.takeWhile isNumberBlank,
    ((cs.dropWhile isNumberBlank).reverse.takeWhile isNumberBlank).reverse, ?_, ?_⟩
  · rw [List.append_assoc, trimNumber, ← hend, List.takeWhile_append_dropWhile]
  · intro c hc
    rcases List.mem_append.1 hc with hc | hc
    · exact List.mem_takeWhile_imp hc
    · exact List.mem_takeWhile_imp (List.mem_reverse.1 hc)

theorem Digits.not_isNumberBlank {cs : List Char} {ds : List Nat} (h : Digits cs ds) :
    ∀ c ∈ cs, isNumberBlank c = false := by
  induction h with
  | last hc => exact List.forall_mem_singleton.2 (not_isNumberBlank_of_digit hc)
  | next hc _ ih => exact List.forall_mem_cons.2 ⟨not_isNumberBlank_of_digit hc, ih⟩
  | joined hc _ ih =>
    exact List.forall_mem_cons.2 ⟨not_isNumberBlank_of_digit hc, List.forall_mem_cons.2 ⟨rfl, ih⟩⟩

/-- **what is read as a number** -/
theorem number?_eq_some_iff {s : String} {n : Int} : number? s = some n ↔ Denotes s n := by
  constructor
  · intro h
    obtain ⟨front, back, hcut, hblank⟩ := exists_trimNumber s.toList
    simp only [isNumberBlank_eq] at hblank
    rw [number?] at h
    split at h
    · next cs hcs =>
      rw [hcs] at hcut
      obtain ⟨_, hbind, rfl⟩ := Option.map_eq_some_iff.1 h
      obtain ⟨m, hm, heq⟩ := Option.bind_eq_some_iff.1 hbind
      obtain ⟨ds, hds, hshort, rfl⟩ := natural?_eq_some_iff.1 hm
      exact ⟨front, ['-'], cs, back, ds, hcut, hblank, hds, hshort,
        .inr ⟨rfl, by rw [Option.some.inj heq]⟩⟩
    · next cs hcs =>
      rw [hcs] at hcut
      obtain ⟨m, hm, rfl⟩ := Option.map_eq_some_iff.1 h
      obtain ⟨ds, hds, hshort, rfl⟩ := natural?_eq_some_iff.1 hm
      exact ⟨front, ['+'], cs, back, ds, hcut, hblank, hds, hshort, .inl ⟨.inr rfl, rfl⟩⟩
    · obtain ⟨m, hm, rfl⟩ := Option.map_eq_some_iff.1 h
      obtain ⟨ds, hds, hshort, rfl⟩ := natural?_eq_some_iff.1 hm
      exact ⟨front, [], _, back, ds, hcut, hblank, hds, hshort, .inl ⟨.inl rfl, rfl⟩⟩
  · rintro ⟨front, sign, cs, back, ds, hcut, hblank, hds, hshort, hn⟩
    simp only [← isNumberBlank_eq] at hblank
    have hnat : natural? cs = some (value ds) := natural?_eq_some_iff.2 ⟨ds, hds, hshort, rfl⟩
    have hsign : ∀ c ∈ sign, isNumberBlank c = false := by
      rcases hn with ⟨rfl | rfl, -⟩ | ⟨rfl, -⟩
      · exact List.forall_mem_nil _
      · exact List.forall_mem_singleton.2 rfl
      · exact List.forall_mem_singleton.2 rfl
    obtain ⟨c, rest, d, rfl, hd⟩ := hds.exists_head
    have htrim : trimNumber s.toList = sign ++ c :: rest := by
      rw [hcut]
      exact trimNumber_around hblank (List.forall_mem_append.2 ⟨hsign, hds.not_isNumberBlank⟩)
        (List.append_ne_nil_of_right_ne_nil _ (List.cons_ne_nil _ _))
    rw [number?, htrim]
    rcases hn with ⟨rfl | rfl, rfl⟩ | ⟨rfl, rfl⟩
    · -- a digit is no sign
      split
      · next heq =>
        obtain ⟨rfl, -⟩ := List.cons.inj heq
        cases hd
      · next heq =>
        obtain ⟨rfl, -⟩ := List.cons.inj heq
        cases hd
      · rw [List.nil_append, hnat]
        rfl
    · exact congrArg (Option.map Int.ofNat) hnat
    · exact congrArg (fun m : Option Nat => (m.bind fun k => some (k : Int)).map fun k => -k) hnat

/-! ## numbers of rows and ids -/

theorem digits_of_isDigit {cs : List Char} (hne : cs ≠ []) (h : ∀ c ∈ cs, c.isDigit = true) :
    Digits cs (cs.map fun c => c.toNat - 48) := by
  have hdigit : ∀ c : Char, c.isDigit = true → Text.decimalDigit? c = some (c.toNat - 48) := by
    intro c hc
    have hlt : c.toNat < 128 := Nat.lt_of_le_of_lt (Char.isDigit_iff_toNat.1 hc).2 (by decide)
    rw [Text.decimalDigit?, if_pos hlt, if_pos hc]
  induction cs with
  | nil => exact absurd rfl hne
  | cons c cs ih =>
    obtain ⟨hc, hcs⟩ := List.forall_mem_cons.1 h
    by_cases hnil : cs = []
    · subst hnil
      exact .last (hdigit c hc)
    · exact .next (hdigit c hc) (ih hnil hcs)

theorem value_map (cs : List Char) :
    value (cs.map fun c => c.toNat - 48) = Nat.ofDigitChars 10 cs 0 :=
  List.foldl_map

/-- The number of a row is read with blanks around it and perhaps a plus sign. -/
theorem denotes_padded {front sign back : String} {n : Nat}
    (hblank : ∀ c ∈ front.toList ++ back.toList, isPadding c = true)
    (hsign : sign = "" ∨ sign = "+") (hn : n < 10 ^ maxReadDigits) :
    Denotes (front ++ sign ++ toString n ++ back) n := by
  have hlist : (toString n).toList = Nat.toDigits 10 n := by
    rw [Nat.toString_eq_repr, Nat.toList_repr]
  refine ⟨front.toList, sign.toList, Nat.toDigits 10 n, back.toList, _, ?_, hblank,
    digits_of_isDigit Nat.toDigits_ne_nil fun c hc => Nat.isDigit_of_mem_toDigits (by decide)
    (by decide) hc, ?_,
    .inl ⟨?_, ?_⟩⟩
  · simp only [String.toList_append, hlist, List.append_assoc]
  · rw [List.length_map]
    exact (Nat.length_toDigits_le_iff (by decide) (by decide)).2 hn
  · rcases hsign with rfl | rfl
    · exact .inl rfl
    · exact .inr rfl
  · rw [value_map, Nat.ofDigitChars_ten_toDigits]

theorem toNat_lt_of_hex {c : Char} (hc : c ∈ "0123456789abcdef".toList) : c.toNat < 128 :=
  of_decide_eq_true (List.all_eq_true.1
    (rfl : "0123456789abcdef".toList.all (·.toNat < 128) = true) c hc)

theorem Digits.ascii {cs : List Char} {ds : List Nat} (h : Digits cs ds)
    (hcs : ∀ c ∈ cs, c ∈ "0123456789abcdef".toList) :
    (∀ c ∈ cs, c.isDigit = true) ∧ ds = cs.map fun c => c.toNat - 48 := by
  have hhex : ∀ c ∈ "0123456789abcdef".toList, ∀ d, Text.decimalDigit? c = some d →
      c.isDigit = true ∧ d = c.toNat - 48 := by
    intro c hc d hd
    rw [Text.decimalDigit?, if_pos (toNat_lt_of_hex hc)] at hd
    split at hd
    · next hdigit => exact ⟨hdigit, (Option.some.inj hd).symm⟩
    · cases hd
  induction h with
  | last hc =>
    obtain ⟨hdigit, rfl⟩ := hhex _ (hcs _ List.mem_cons_self) _ hc
    exact ⟨List.forall_mem_singleton.2 hdigit, rfl⟩
  | next hc _ ih =>
    obtain ⟨hhead, htail⟩ := List.forall_mem_cons.1 hcs
    obtain ⟨hdigit, rfl⟩ := hhex _ hhead _ hc
    obtain ⟨hdigits, rfl⟩ := ih htail
    exact ⟨List.forall_mem_cons.2 ⟨hdigit, hdigits⟩, rfl⟩
  | joined _ _ _ =>
    -- an underscore is no hexadecimal digit
    exact absurd (hcs '_' (List.mem_cons_of_mem _ List.mem_cons_self)) (by decide)

/-- An id is a number if all its digits are decimal. -/
theorem denotes_id_iff {id : String} (hid : IsId id) {n : Int} :
    Denotes id n ↔ id.toList.all Char.isDigit = true ∧ n = Nat.ofDigitChars 10 id.toList 0 := by
  constructor
  · rintro ⟨front, sign, cs, back, ds, hcut, hblank, hds, -, hn⟩
    have hplain : ∀ c ∈ id.toList, isPadding c = false ∧ c ≠ '+' ∧ c ≠ '-' := fun c hc =>
      of_decide_eq_true (List.all_eq_true.1
        (rfl : "0123456789abcdef".toList.all (fun c => isPadding c = false ∧ c ≠ '+' ∧ c ≠ '-') =
          true) c (hid.2 c hc))
    have hmem : ∀ c, c ∈ front ++ (sign ++ cs) ++ back → c ∈ id.toList := fun c hc => hcut ▸ hc
    obtain rfl : front = [] := List.eq_nil_iff_forall_not_mem.2 fun c hc =>
      absurd (hblank c (by simp [hc])) (Bool.eq_false_iff.1 (hplain c (hmem c (by simp [hc]))).1)
    obtain rfl : back = [] := List.eq_nil_iff_forall_not_mem.2 fun c hc =>
      absurd (hblank c (by simp [hc])) (Bool.eq_false_iff.1 (hplain c (hmem c (by simp [hc]))).1)
    rcases hn with ⟨rfl | rfl, rfl⟩ | ⟨rfl, rfl⟩
    · simp only [List.nil_append, List.append_nil] at hcut
      obtain ⟨hdigits, rfl⟩ := hds.ascii (hcut ▸ hid.2)
      exact ⟨List.all_eq_true.2 (hcut ▸ hdigits), by rw [value_map, hcut]⟩
    · exact absurd rfl (hplain '+' (hmem '+' (by simp))).2.1
    · exact absurd rfl (hplain '-' (hmem '-' (by simp))).2.2
  · rintro ⟨hdigits, rfl⟩
    have hlength : id.toList.length = 12 := hid.1
    refine ⟨[], [], id.toList, [], _, by simp, List.forall_mem_nil _,
      digits_of_isDigit ?_ (List.all_eq_true.1 hdigits), ?_, .inl ⟨.inl rfl, by rw [value_map]⟩⟩
    · exact List.ne_nil_of_length_pos (by omega)
    · rw [List.length_map, hlength]
      decide

/-- Ids that differ are numbers that differ when their characters are taken for digits. -/
theorem length_le_of_isId {ids : List String} (hid : ∀ id ∈ ids, IsId id) (hdistinct : ids.Nodup) :
    ids.length ≤ 128 ^ 12 := by
  let digits (id : String) : List Nat := id.toList.map Char.toNat
  have hdigit : ∀ id ∈ ids, ∀ d ∈ digits id, d < 128 := by
    intro id hmem d hd
    obtain ⟨c, hc, rfl⟩ := List.mem_map.1 hd
    exact toNat_lt_of_hex ((hid id hmem).2 c hc)
  have hlength : ∀ id ∈ ids, (digits id).length = 12 := by
    intro id hmem
    rw [List.length_map]
    exact (hid id hmem).1
  have hnodup : (ids.map fun id => Nat.ofDigits 128 (digits id)).Nodup := by
    refine List.Nodup.map_on (fun a ha b hb heq => ?_) hdistinct
    have hsame := Nat.ofDigits_inj_of_len_eq (by decide) ((hlength a ha).trans (hlength b hb).symm)
      (hdigit a ha) (hdigit b hb) heq
    exact String.toList_inj.1 (List.map_injective_iff.2 (fun _ _ => Char.toNat_inj.1) hsame)
  have hrange : (ids.map fun id => Nat.ofDigits 128 (digits id)) ⊆ List.range (128 ^ 12) := by
    intro n hn
    obtain ⟨id, hmem, rfl⟩ := List.mem_map.1 hn
    rw [List.mem_range, ← hlength id hmem]
    exact Nat.ofDigits_lt_base_pow_length (by decide) (hdigit id hmem)
  have hle := (hnodup.subperm hrange).length_le
  rwa [List.length_map, List.length_range] at hle

/-! ## what a reference finds -/

variable {entries : List Entry} {ref : String}

theorem find?_of_denotes {n : Int} (h : Denotes ref n) (hlo : 1 ≤ n) (hhi : n ≤ entries.length) :
    find? entries ref = entries[(n - 1).toNat]? := by
  have hlt : (n - 1).toNat < entries.length := by omega
  rw [find?, number?_eq_some_iff.2 h, Option.bind_some, numbered?, if_pos hlo,
    List.getElem?_eq_getElem hlt]
  rfl

theorem find?_of_not_denotes (h : ∀ n, Denotes ref n → ¬ (1 ≤ n ∧ n ≤ (entries.length : Int))) :
    find? entries ref = entries.find? fun e => Text.isPrefix ref.toList e.id.toList := by
  have hnone : (number? ref).bind (numbered? entries) = none := by
    rw [Option.bind_eq_none_iff]
    intro n hn
    have hout := h n (number?_eq_some_iff.1 hn)
    rw [numbered?]
    split
    · exact List.getElem?_eq_none (by omega)
    · rfl
  rw [find?, hnone]
  rfl

theorem find?_eq_some_iff {i : Nat} {e : Entry} (hdistinct : (entries.map Entry.id).Nodup)
    (hi : entries[i]? = some e) (h : ∀ n, Denotes ref n → ¬ (1 ≤ n ∧ n ≤ (entries.length : Int))) :
    find? entries ref = some e ↔
      ref.toList <+: e.id.toList ∧ ∀ d ∈ entries.take i, ¬ ref.toList <+: d.id.toList := by
  simp only [find?_of_not_denotes h, List.find?_eq_some_iff_append, Bool.not_eq_true',
    Bool.eq_false_iff, ne_eq, Text.isPrefix, Text.dropWord?_isSome]
  refine and_congr_right fun _ => ⟨?_,
    fun hfirst => ⟨entries.take i, entries.drop (i + 1), ?_, hfirst⟩⟩
  · rintro ⟨before, after, rfl, hfirst⟩
    -- the ids are distinct, so the entry stands at one place only
    have hlt : before.length < ((before ++ e :: after).map Entry.id).length := by simp
    have hsame : ((before ++ e :: after).map Entry.id)[before.length]? =
        ((before ++ e :: after).map Entry.id)[i]? := by
      rw [List.getElem?_map, List.getElem?_map, hi, List.getElem?_append_right (Nat.le_refl _),
        Nat.sub_self]
      rfl
    obtain rfl := (List.getElem?_inj hlt hdistinct).1 hsame
    rwa [List.take_left]
  · obtain ⟨hlt, rfl⟩ := List.getElem?_eq_some_iff.1 hi
    rw [← List.drop_eq_getElem_cons, List.take_append_drop]

theorem id_ne_of_mem_take {i : Nat} {d e : Entry} (hdistinct : (entries.map Entry.id).Nodup)
    (hi : entries[i]? = some e) (hd : d ∈ entries.take i) : d.id ≠ e.id := by
  have he : e ∈ entries.drop i :=
    List.mem_of_getElem? (i := 0) (by rw [List.getElem?_drop, Nat.add_zero, hi])
  rw [← List.take_append_drop i entries, List.map_append] at hdistinct
  exact (List.nodup_append.1 hdistinct).2.2 _ (List.mem_map_of_mem hd) _ (List.mem_map_of_mem he)

theorem rows_getElem? (s : Selections) (n i : Nat) :
    (rowsFrom s n entries)[i]? = entries[i]?.map (row s (n + i)) := by
  induction entries generalizing n i with
  | nil => rfl
  | cons e es ih =>
    cases i with
    | zero => rfl
    | succ i => rw [rowsFrom, List.getElem?_cons_succ, List.getElem?_cons_succ, ih,
        Nat.add_right_comm, Nat.add_assoc]

/-- **What a reference finds**, where the ids are distinct: the number in front of a row finds its
entry, with blanks around it and perhaps a plus sign, and so does the full id, unless it is itself a
number in the list; any reference that is no number in the list finds the first entry whose id
starts with it. -/
theorem references_resolve (hid : ∀ e ∈ entries, IsId e.id)
    (hdistinct : (entries.map Entry.id).Nodup) (s : Selections) {i : Nat} {e : Entry}
    (hi : entries[i]? = some e) :
    (grid entries s).rows[i]?.bind List.head? = some (toString (i + 1)) ∧
    (∀ front sign back : String, (∀ c ∈ front.toList ++ back.toList, isPadding c = true) →
      sign = "" ∨ sign = "+" →
      find? entries (front ++ sign ++ toString (i + 1) ++ back) = some e) ∧
    find? entries e.id =
      (let n := Nat.ofDigitChars 10 e.id.toList 0
      if e.id.toList.all Char.isDigit ∧ 1 ≤ n ∧
      n ≤ entries.length then entries[n - 1]? else some e) ∧
    ∀ ref, (∀ n, Denotes ref n → ¬ (1 ≤ n ∧ n ≤ (entries.length : Int))) →
      (find? entries ref = some e ↔
        ref.toList <+: e.id.toList ∧ ∀ d ∈ entries.take i, ¬ ref.toList <+: d.id.toList) := by
  have hmem : e ∈ entries := List.mem_of_getElem? hi
  have hlt : i < entries.length := (List.getElem?_eq_some_iff.1 hi).1
  refine ⟨?_, ?_, ?_, fun ref => find?_eq_some_iff hdistinct hi⟩
  · rw [grid, rows_getElem?, hi, Nat.add_comm 1 i]
    rfl
  · intro front sign back hblank hsign
    have hlength := length_le_of_isId (List.forall_mem_map.2 hid) hdistinct
    rw [List.length_map] at hlength
    have hdenotes := denotes_padded hblank hsign (n := i + 1) <|
      calc i + 1 ≤ 128 ^ 12 := by omega
        _ < 10 ^ 26 := by decide
        _ ≤ 10 ^ maxReadDigits := Nat.pow_le_pow_right (by decide) (by decide)
    rw [find?_of_denotes hdenotes (by omega) (by omega), ← hi]
    congr 1
    omega
  · dsimp only
    split
    · next hnumber =>
      obtain ⟨hdigits, hlo, hhi⟩ := hnumber
      rw [find?_of_denotes ((denotes_id_iff (hid e hmem)).2 ⟨hdigits, rfl⟩) (by omega) (by omega)]
      congr 1
      omega
    · next hnumber =>
      -- the ids are all of one length, so one that starts with another is the same
      refine (find?_eq_some_iff hdistinct hi ?_).2 ⟨List.prefix_rfl, fun d hd hstart => ?_⟩
      · rintro n hn ⟨hlo, hhi⟩
        obtain ⟨hdigits, rfl⟩ := (denotes_id_iff (hid e hmem)).1 hn
        exact hnumber ⟨hdigits, by omega, by omega⟩
      · have hlength : e.id.length = d.id.length :=
          (hid e hmem).1.trans (hid d (List.mem_of_mem_take hd)).1.symm
        exact id_ne_of_mem_take hdistinct hi hd
          (String.toList_inj.1 (hstart.eq_of_length hlength)).symm

def numberedEntry : Entry := .mk ⟨"000000000002", "area()", .function, 0, "shapes.py", 1, none⟩ []

def namedEntry : Entry := .mk ⟨"0a1b2c3d4e5f", "size()", .function, 0, "shapes.py", 5, none⟩ []

/-- The id of the first of two entries is the number of the second. -/
theorem entries_resolved :
    (∀ e ∈ [numberedEntry, namedEntry], IsId e.id) ∧
    ([numberedEntry, namedEntry].map Entry.id).Nodup ∧
    find? [numberedEntry, namedEntry] " +2\n" = some namedEntry ∧
    find? [numberedEntry, namedEntry] "000000000002" = some namedEntry ∧
    find? [numberedEntry, namedEntry] "0a1b2c3d4e5f" = some namedEntry ∧
    find? [numberedEntry, namedEntry] "0a" = some namedEntry := by
  have hid : ∀ e ∈ [numberedEntry, namedEntry], IsId e.id :=
    List.forall_mem_cons.2 ⟨by decide, List.forall_mem_singleton.2 (by decide)⟩
  have hdistinct : ([numberedEntry, namedEntry].map Entry.id).Nodup := by decide
  obtain ⟨-, -, hnumber, -⟩ := references_resolve hid hdistinct [] (i := 0) rfl
  obtain ⟨-, hpadded, hnamed, hstart⟩ := references_resolve hid hdistinct [] (i := 1) rfl
  refine ⟨hid, hdistinct, hpadded " " "+" "\n" (List.all_eq_true.1 rfl) (.inr rfl), hnumber, hnamed,
    (hstart "0a" fun n hn => ?_).2 ⟨by decide, by decide⟩⟩
  have hnone : number? "0a" = none := by decide
  cases hnone.symm.trans (number?_eq_some_iff.2 hn)

/-- A separator is white space, but no number is read after one. -/
theorem separator_unresolved :
    IsId numberedEntry.id ∧ Text.isBlank '\x1c' = true ∧
    (find? [numberedEntry] "\x1c1").isNone = true := by
  decide

end Apidoc.Chooser
