import Apidoc.Data.Json.Reader
import Apidoc.Proofs.Data.Ordered
import Apidoc.Proofs.Text.Points

/-!
# What is written in JSON is read back

* `Json.readPoints_charText`    a character is read back from its escape, also if that is a pair of
                                units;
* `Json.readString_text`        so is a text;
* `Json.Plain`                  values without numbers, in which no map has a key twice;
* `Json.parse_render`           they are read back whatever they hold;
* `Json.Plain.ascii`            what is written for them is ASCII.
-/

namespace Apidoc

namespace Json

/-! ## strings -/

theorem readPoints_skip (xs rest : List Char) :
    readPoints xs.length (xs ++ rest) = readPoints 0 rest := by
  induction xs with
  | nil => rfl
  | cons x xs ih => exact ih

theorem length_unit {n : Nat} (h : n < 0x10000) : (Text.hexText 4 n).length = 4 :=
  Text.length_hexText (by decide) h

theorem unit?_hexText {n : Nat} (h : n < 0x10000) (rest : List Char) :
    unit? (Text.hexText 4 n ++ rest) = some n := by
  have htake : (Text.hexText 4 n ++ rest).take 4 = Text.hexText 4 n :=
    List.take_left' (length_unit h)
  rw [unit?, htake, if_pos ⟨length_unit h, Text.all_hexText 4 n⟩, Text.hexNat_hexText]

theorem drop_hexText {n : Nat} (h : n < 0x10000) (rest : List Char) :
    (Text.hexText 4 n ++ rest).drop 4 = rest :=
  List.drop_left' (length_unit h)

/-- A code point of the first plane, written as one unit. -/
theorem readPoints_unit {n : Nat} (h : n < 0x10000) (hunit : Text.isHighUnit n = false)
    (rest : List Char) :
    readPoints 0 (unitText n ++ rest) = (readPoints 0 rest).map fun p => (n :: p.1, p.2) := by
  have hpoint : unitPoint? (Text.hexText 4 n ++ rest) = some (n, 4) := by
    rw [unitPoint?, unit?_hexText h]
    simp only [hunit]
  have hskip : readPoints 5 ('u' :: (Text.hexText 4 n ++ rest)) = readPoints 0 rest := by
    have hlength : ('u' :: Text.hexText 4 n).length = 5 := by rw [List.length_cons, length_unit h]
    rw [← hlength]
    exact readPoints_skip ('u' :: Text.hexText 4 n) rest
  show readPoints 0 ('\\' :: 'u' :: (Text.hexText 4 n ++ rest)) = _
  rw [readPoints]
  simp only [hpoint, hskip]
  rfl

/-- A code point beyond the first plane, written as two units. -/
theorem readPoints_pair {hi lo : Nat} (hhi : Text.isHighUnit hi = true)
    (hlo : Text.isLowUnit lo = true) (rest : List Char) :
    readPoints 0 (unitText hi ++ unitText lo ++ rest) =
      (readPoints 0 rest).map fun p => (Text.joinUnits hi lo :: p.1, p.2) := by
  have hhi' : hi < 0x10000 := by
    simp only [Text.isHighUnit, Bool.and_eq_true, decide_eq_true_eq] at hhi
    omega
  have hlo' : lo < 0x10000 := by
    simp only [Text.isLowUnit, Bool.and_eq_true, decide_eq_true_eq] at hlo
    omega
  have hpoint : unitPoint? (Text.hexText 4 hi ++ (unitText lo ++ rest)) =
      some (Text.joinUnits hi lo, 10) := by
    rw [unitPoint?, unit?_hexText hhi']
    simp only [hhi, drop_hexText hhi', unitText, List.cons_append, unit?_hexText hlo', hlo, if_true]
  have hskip : readPoints 11 ('u' :: (Text.hexText 4 hi ++ (unitText lo ++ rest))) =
      readPoints 0 rest := by
    have hlength : ('u' :: Text.hexText 4 hi ++ unitText lo).length = 11 := by
      rw [List.length_append, List.length_cons, unitText, List.length_cons, List.length_cons,
        length_unit hhi', length_unit hlo']
    rw [← hlength, ← List.append_assoc]
    exact readPoints_skip ('u' :: Text.hexText 4 hi ++ unitText lo) rest
  rw [List.append_assoc]
  show readPoints 0 ('\\' :: 'u' :: (Text.hexText 4 hi ++ (unitText lo ++ rest))) = _
  rw [readPoints]
  simp only [hpoint, hskip]
  rfl

theorem readPoints_charText (c : Char) (rest : List Char) :
    readPoints 0 (charText c ++ rest) = (readPoints 0 rest).map fun p => (c.toNat :: p.1, p.2) := by
  have hbound : c.toNat < 0x110000 := by
    rcases c.valid with h | h
    · exact Nat.lt_trans h (by decide)
    · exact h.2
  unfold charText
  simp only
  -- the characters that have an escape of their own
  iterate 7
    split
    · rename_i h
      rw [h]
      rfl
  split
  · rename_i hquote hslash _ _ _ _ _ hprint
    show readPoints 0 (c :: rest) = _
    rw [readPoints.eq_def]
    simp only
    rw [if_neg hquote, if_neg (by omega), if_pos hslash]
  split
  · exact readPoints_unit ‹_› (Text.not_unit c).1 rest
  · have hjoin : Text.joinUnits (0xd800 + (c.toNat - 0x10000) / 0x400)
      (0xdc00 + (c.toNat - 0x10000) % 0x400) =
        c.toNat := by
      unfold Text.joinUnits
      omega
    rw [readPoints_pair, hjoin]
    · simp only [Text.isHighUnit, Bool.and_eq_true, decide_eq_true_eq]
      omega
    · simp only [Text.isLowUnit, Bool.and_eq_true, decide_eq_true_eq]
      omega

theorem readPoints_text (cs rest : List Char) :
    readPoints 0 (cs.flatMap charText ++ '"' :: rest) = some (Text.points cs, rest) := by
  induction cs with
  | nil => rfl
  | cons c cs ih =>
    rw [List.flatMap_cons, List.append_assoc, readPoints_charText, ih]
    rfl

theorem readString_text (s : String) (rest : List Char) :
    readString (s.toList.flatMap charText ++ '"' :: rest) = .ok (s, rest) := by
  rw [readString, readPoints_text]
  simp only [Text.ofPoints_points, String.ofList_toList]

/-! ## what is written -/

/-- Nothing is left out, and the text has these characters. -/
def Prints (w : Written) (cs : List Char) : Prop := w.complete = true ∧ w.text.toList = cs

theorem Prints.done (s : String) : Prints (.done s) s.toList := ⟨rfl, rfl⟩

theorem Prints.andThen {a b : Written} {cs ds : List Char} (ha : Prints a cs) (hb : Prints b ds) :
    Prints (a.andThen b) (cs ++ ds) := by
  rw [Written.andThen, if_pos ha.1]
  refine ⟨hb.1, ?_⟩
  rw [String.toList_append, ha.2, hb.2]

def IsGap (gap : List Char) : Prop := ∀ c ∈ gap, isSpace c = true

theorem skipSpace_gap {gap : List Char} (h : IsGap gap) (cs : List Char) :
    skipSpace (gap ++ cs) = skipSpace cs :=
  List.dropWhile_append_of_pos h

theorem skipSpace_cons {c : Char} (h : isSpace c = false) (cs : List Char) :
    skipSpace (c :: cs) = c :: cs :=
  List.dropWhile_cons_of_neg (by rw [h]; decide)

theorem isGap_lineStart (level : Nat) : IsGap (lineStart level).toList := by
  intro c hc
  simp only [lineStart, String.toList_append, String.toList_ofList, List.mem_append] at hc
  rcases hc with hc | hc
  · rw [List.mem_singleton.mp hc]
    rfl
  · rw [List.eq_of_mem_replicate hc]
    rfl

theorem toList_itemBreak (level : Nat) :
    (itemBreak false level).toList = ',' :: (lineStart level).toList := by
  rw [itemBreak, if_neg (by decide), String.toList_append]
  rfl

/-! ## values -/

/-- Values without numbers, in which no map has a key twice. -/
inductive Plain : Data → Prop
  | null : Plain .null
  | bool (b : Bool) : Plain (.bool b)
  | str (s : String) : Plain (.str s)
  | list {xs : List Data} (h : ∀ x ∈ xs, Plain x) : Plain (.list xs)
  | object {fields : List (String × Data)} (h : ∀ f ∈ fields, Plain f.2)
      (hkeys : (fields.map (·.1)).Nodup) :
      Plain (.object fields)

/-- The text starts with something that is no gap and does not close a list. -/
def StartsItem (cs : List Char) : Prop := ∃ c rest, cs = c :: rest ∧ isSpace c = false ∧ c ≠ ']'

/-- The characters of a text start a value and are read as it, whatever follows. -/
structure ReadsAs (v : Data) (cs : List Char) : Prop where
  starts : StartsItem cs
  reads : ∀ {n : Nat} (rest : List Char), cs.length < n → readValue n (cs ++ rest) = .ok (v, rest)

theorem StartsItem.skip {cs : List Char} (h : StartsItem cs) {gap : List Char} (hgap : IsGap gap)
    (rest : List Char) : skipSpace (gap ++ (cs ++ rest)) = cs ++ rest := by
  obtain ⟨c, cs', rfl, hc, _⟩ := h
  rw [skipSpace_gap hgap, List.cons_append, skipSpace_cons hc]

theorem readsAs_null : ReadsAs .null "null".toList := by
  refine ⟨⟨_, _, rfl, rfl, by decide⟩, fun {n} rest hn => ?_⟩
  cases n with
  | zero => cases hn
  | succ n => rfl

theorem readsAs_bool (b : Bool) : ReadsAs (.bool b) (if b then "true" else "false").toList := by
  cases b
  · refine ⟨⟨_, _, rfl, rfl, by decide⟩, fun {n} rest hn => ?_⟩
    cases n with
    | zero => cases hn
    | succ n => rfl
  · refine ⟨⟨_, _, rfl, rfl, by decide⟩, fun {n} rest hn => ?_⟩
    cases n with
    | zero => cases hn
    | succ n => rfl

theorem toList_stringText (s : String) :
    (stringText s).toList = '"' :: (s.toList.flatMap charText ++ ['"']) :=
  String.toList_ofList

theorem readsAs_str (s : String) : ReadsAs (.str s) (stringText s).toList := by
  rw [toList_stringText]
  refine ⟨⟨_, _, rfl, rfl, by decide⟩, fun {n} rest hn => ?_⟩
  cases n with
  | zero => cases hn
  | succ n =>
    rw [List.cons_append, List.append_assoc]
    show (readString (s.toList.flatMap charText ++ '"' :: rest) >>=
      fun p => .ok (Data.str p.1, p.2)) = _
    rw [readString_text]
    rfl

/-! ## lists -/

theorem readItems_last {n : Nat} {cs gap rest : List Char} {x : Data} (hgap : IsGap gap)
    (hx : readValue n cs = .ok (x, gap ++ ']' :: rest)) :
    readItems (n + 1) cs = .ok ([x], rest) := by
  rw [readItems, hx]
  simp only [bind, Except.bind, skipSpace_gap hgap,
    skipSpace_cons (show isSpace ']' = false from rfl)]
  rfl

theorem readItems_more {n : Nat} {cs ds rest : List Char} {x : Data} {xs : List Data}
    (hx : readValue n cs = .ok (x, ',' :: ds)) (hxs : readItems n (skipSpace ds) = .ok (xs, rest)) :
    readItems (n + 1) cs = .ok (x :: xs, rest) := by
  rw [readItems, hx]
  simp only [bind, Except.bind, skipSpace_cons (show isSpace ',' = false from rfl), hxs]
  rfl

theorem exists_items {xs : List Data} (hne : xs ≠ []) {level : Nat}
    (h : ∀ x ∈ xs, ∃ cs, Prints (write level x) cs ∧ ReadsAs x cs) (first : Bool) :
    ∃ cs, Prints (writeItems level first xs) ((itemBreak first level).toList ++ cs) ∧
    StartsItem cs ∧
      ∀ {n : Nat} {gap : List Char} (rest : List Char), IsGap gap → cs.length + 1 < n →
        readItems n (cs ++ (gap ++ ']' :: rest)) = .ok (xs, rest) := by
  induction xs generalizing first with
  | nil => exact absurd rfl hne
  | cons x xs ih =>
    rw [List.forall_mem_cons] at h
    obtain ⟨cs, hprints, hreads⟩ := h.1
    cases xs with
    | nil =>
      refine ⟨cs, ?_, hreads.starts, ?_⟩
      · have hw := (Prints.done (itemBreak first level)).andThen (hprints.andThen (Prints.done ""))
        rwa [show "".toList = [] from rfl, List.append_nil] at hw
      · intro n gap rest hgap hn
        obtain ⟨n, rfl⟩ : ∃ k, n = k + 1 := ⟨n - 1, by omega⟩
        exact readItems_last hgap (hreads.reads _ (by omega))
    | cons y ys =>
      obtain ⟨ds, hds, hstart, hrest⟩ := ih (List.cons_ne_nil y ys) h.2 false
      obtain ⟨c, cs', hcs, hc⟩ := hreads.starts
      refine ⟨cs ++ ((itemBreak false level).toList ++ ds), ?_, ⟨c, _, by rw [hcs]; rfl, hc⟩, ?_⟩
      · exact (Prints.done (itemBreak first level)).andThen (hprints.andThen hds)
      · intro n gap rest hgap hn
        obtain ⟨n, rfl⟩ : ∃ k, n = k + 1 := ⟨n - 1, by omega⟩
        rw [List.length_append, List.length_append, toList_itemBreak, List.length_cons] at hn
        rw [List.append_assoc, List.append_assoc, toList_itemBreak, List.cons_append]
        refine readItems_more (hreads.reads _ (by omega)) ?_
        rw [hstart.skip (isGap_lineStart level)]
        exact hrest rest hgap (by omega)

/-! ## maps -/

def pairOf (f : String × Data) : Data × Data := (.str f.1, f.2)

theorem setPair_new {ps : List (Data × Data)} {k : Data}
    (h : ∀ p ∈ ps, (p.1 == k) = false) (v : Data) : setPair ps k v = ps ++ [(k, v)] := by
  induction ps with
  | nil => rfl
  | cons p ps ih =>
    rw [List.forall_mem_cons] at h
    rw [setPair, Ordered.set, if_neg (by rw [h.1]; decide), ← setPair, ih h.2]
    rfl

theorem readPairs_key {n : Nat} {done : List (Data × Data)} {k : String} {v : Data}
    {ds rest : List Char} (hskip : skipSpace (' ' :: ds) = ds)
    (hv : readValue n ds = .ok (v, rest)) :
    readPairs (n + 1) done ((stringText k).toList ++ (": ".toList ++ ds)) =
      match skipSpace rest with
      | '\x7d' :: rest => .ok (setPair done (.str k) v, rest)
      | ',' :: rest => readPairs n (setPair done (.str k) v) (skipSpace rest)
      | _ => .error .malformed := by
  rw [toList_stringText, List.cons_append, List.append_assoc, readPairs]
  show (readString (k.toList.flatMap charText ++ '"' :: ':' :: ' ' :: ds) >>= _) = _
  rw [readString_text]
  simp only [bind, Except.bind, skipSpace_cons (show isSpace ':' = false from rfl), hskip, hv]
  rfl

theorem readPairs_last {n : Nat} {done : List (Data × Data)} {k : String} {v : Data}
    {ds gap rest : List Char} (hgap : IsGap gap) (hskip : skipSpace (' ' :: ds) = ds)
    (hv : readValue n ds = .ok (v, gap ++ '\x7d' :: rest)) :
    readPairs (n + 1) done ((stringText k).toList ++ (": ".toList ++ ds)) =
      .ok (setPair done (.str k) v, rest) := by
  rw [readPairs_key hskip hv, skipSpace_gap hgap, skipSpace_cons rfl]
  rfl

theorem readPairs_more {n : Nat} {done : List (Data × Data)} {k : String} {v : Data}
    {ds rest : List Char} (hskip : skipSpace (' ' :: ds) = ds)
    (hv : readValue n ds = .ok (v, ',' :: rest)) :
    readPairs (n + 1) done ((stringText k).toList ++ (": ".toList ++ ds)) =
      readPairs n (setPair done (.str k) v) (skipSpace rest) := by
  rw [readPairs_key hskip hv, skipSpace_cons rfl]
  rfl

/-- None of the fields has a key that is there already. -/
def Fresh (done : List (Data × Data)) (fields : List (String × Data)) : Prop :=
  ∀ p ∈ done, ∀ f ∈ fields, (p.1 == .str f.1) = false

theorem Fresh.setPair {done : List (Data × Data)} {f : String × Data}
    {fields : List (String × Data)} (h : Fresh done (f :: fields)) :
    setPair done (.str f.1) f.2 = done ++ [pairOf f] :=
  setPair_new (fun p hp => h p hp f List.mem_cons_self) f.2

theorem Fresh.concat {done : List (Data × Data)} {f : String × Data} {fields : List (String × Data)}
    (h : Fresh done (f :: fields)) (hf : f.1 ∉ fields.map (·.1)) :
    Fresh (done ++ [pairOf f]) fields := by
  intro p hp g hg
  rcases List.mem_append.mp hp with hp | hp
  · exact h p hp g (List.mem_cons_of_mem _ hg)
  · rw [List.mem_singleton.mp hp, pairOf, Data.str_beq, beq_eq_false_iff_ne]
    exact fun e => hf (e ▸ List.mem_map_of_mem hg)

theorem prints_key (first : Bool) (level : Nat) (k : String) :
    Prints (.done (itemBreak first level ++ stringText k ++ ": "))
      ((itemBreak first level).toList ++ ((stringText k).toList ++ ": ".toList)) := by
  have hd := Prints.done (itemBreak first level ++ stringText k ++ ": ")
  rwa [String.toList_append, String.toList_append, List.append_assoc] at hd

theorem stringText_append (s : String) (rest : List Char) :
    ∃ cs, (stringText s).toList ++ rest = '"' :: cs := by
  rw [toList_stringText]
  exact ⟨_, rfl⟩

theorem exists_pairs {fields : List (String × Data)} (hne : fields ≠ [])
    (hkeys : (fields.map (·.1)).Nodup) {level : Nat}
    (h : ∀ f ∈ fields, ∃ cs, Prints (write level f.2) cs ∧ ReadsAs f.2 cs) (first : Bool) :
    ∃ cs, Prints (writePairs level first (fields.map pairOf))
    ((itemBreak first level).toList ++ cs) ∧
      (∃ rest, cs = '"' :: rest) ∧
      ∀ {n : Nat} {done : List (Data × Data)} {gap : List Char} (rest : List Char), IsGap gap →
        cs.length + 1 < n → Fresh done fields →
        readPairs n done (cs ++ (gap ++ '\x7d' :: rest)) =
          .ok (done ++ fields.map pairOf, rest) := by
  induction fields generalizing first with
  | nil => exact absurd rfl hne
  | cons f fields ih =>
    rw [List.forall_mem_cons] at h
    rw [List.map_cons, List.nodup_cons] at hkeys
    obtain ⟨cs, hprints, hreads⟩ := h.1
    have hskip (rest : List Char) : skipSpace (' ' :: (cs ++ rest)) = cs ++ rest :=
      hreads.starts.skip
        (show IsGap [' '] from fun c hc => by rw [List.mem_singleton.mp hc]; rfl) rest
    cases fields with
    | nil =>
      refine ⟨(stringText f.1).toList ++ (": ".toList ++ cs), ?_, stringText_append .., ?_⟩
      · have hw := (prints_key first level f.1).andThen (hprints.andThen (Prints.done ""))
        rwa [show "".toList = [] from rfl, List.append_nil, List.append_assoc,
          List.append_assoc] at hw
      · intro n done gap rest hgap hn hnew
        obtain ⟨n, rfl⟩ : ∃ k, n = k + 1 := ⟨n - 1, by omega⟩
        rw [List.length_append, List.length_append] at hn
        rw [List.append_assoc, List.append_assoc,
          readPairs_last hgap (hskip _) (hreads.reads _ (by omega)), hnew.setPair]
        rfl
    | cons g fields =>
      obtain ⟨ds, hds, ⟨r, hr⟩, hrest⟩ := ih (List.cons_ne_nil g fields) hkeys.2 h.2 false
      refine ⟨(stringText f.1).toList ++
        (": ".toList ++ (cs ++ ((itemBreak false level).toList ++ ds))), ?_,
        stringText_append .., ?_⟩
      · have hw := (prints_key first level f.1).andThen (hprints.andThen hds)
        rwa [List.append_assoc, List.append_assoc] at hw
      · intro n done gap rest hgap hn hnew
        obtain ⟨n, rfl⟩ : ∃ k, n = k + 1 := ⟨n - 1, by omega⟩
        simp only [List.length_append, toList_itemBreak, List.length_cons] at hn
        simp only [List.append_assoc, toList_itemBreak, List.cons_append]
        -- after the comma, the next field starts with a quote
        rw [readPairs_more (hskip _) (hreads.reads _ (by omega)), hnew.setPair,
          skipSpace_gap (isGap_lineStart level), hr, List.cons_append, skipSpace_cons rfl,
          ← List.cons_append, ← hr]
        refine (hrest rest hgap (by omega) (hnew.concat hkeys.1)).trans ?_
        rw [List.append_assoc]
        rfl

/-! ## documents -/

theorem readsAs_list {xs : List Data} {outer inner cs : List Char} (hinner : IsGap inner)
    (houter : IsGap outer) (hstart : StartsItem cs)
    (hreads : ∀ {n : Nat} {gap : List Char} (rest : List Char), IsGap gap →
      cs.length + 1 < n → readItems n (cs ++ (gap ++ ']' :: rest)) = .ok (xs, rest)) :
    ReadsAs (.list xs) ('[' :: (inner ++ (cs ++ (outer ++ [']'])))) := by
  refine ⟨⟨'[', _, rfl, rfl, by decide⟩, fun {n} rest hn => ?_⟩
  obtain ⟨n, rfl⟩ : ∃ k, n = k + 1 := ⟨n - 1, by omega⟩
  simp only [List.length_cons, List.length_append] at hn
  obtain ⟨c, cs', hcs, hspace, hclose⟩ := id hstart
  have hitems := hreads rest houter (n := n) (by omega)
  have hskip := hstart.skip hinner (outer ++ ']' :: rest)
  simp only [List.cons_append, List.append_assoc, List.nil_append, readValue, hskip]
  rw [hcs, List.cons_append] at hitems ⊢
  split
  · rename_i h
    exact absurd (List.cons.inj h).1 hclose
  · simp only [hitems, bind, Except.bind]
    rfl

theorem readsAs_object {fields : List (String × Data)} {outer inner cs : List Char}
    (hinner : IsGap inner) (houter : IsGap outer) (hstart : ∃ rest, cs = '"' :: rest)
    (hreads : ∀ {n : Nat} {done : List (Data × Data)} {gap : List Char}
      (rest : List Char), IsGap gap →
      cs.length + 1 < n → Fresh done fields →
      readPairs n done (cs ++ (gap ++ '\x7d' :: rest)) = .ok (done ++ fields.map pairOf, rest)) :
    ReadsAs (.object fields) ('\x7b' :: (inner ++ (cs ++ (outer ++ ['\x7d'])))) := by
  refine ⟨⟨'\x7b', _, rfl, rfl, by decide⟩, fun {n} rest hn => ?_⟩
  obtain ⟨n, rfl⟩ : ∃ k, n = k + 1 := ⟨n - 1, by omega⟩
  simp only [List.length_cons, List.length_append] at hn
  obtain ⟨cs', hcs⟩ := hstart
  have hpairs : readPairs n [] (cs ++ (outer ++ '\x7d' :: rest)) =
    .ok ([] ++ fields.map pairOf, rest) :=
    hreads rest houter (by omega) fun p hp => absurd hp List.not_mem_nil
  have hskip : skipSpace (inner ++ (cs ++ (outer ++ '\x7d' :: rest))) = cs ++
      (outer ++ '\x7d' :: rest) := by
    rw [skipSpace_gap hinner, hcs, List.cons_append, skipSpace_cons rfl]
  simp only [List.cons_append, List.append_assoc, List.nil_append, readValue, hskip]
  rw [hcs, List.cons_append] at hpairs ⊢
  split
  · rename_i h
    exact absurd (List.cons.inj h).1 (by decide)
  · simp only [hpairs, bind, Except.bind]
    rfl

/-- A plain value is written whole, and its text is read as the value. -/
theorem Plain.exists_text {v : Data} (h : Plain v) (level : Nat) :
    ∃ cs, Prints (write level v) cs ∧ ReadsAs v cs := by
  induction h generalizing level with
  | null => exact ⟨_, .done _, readsAs_null⟩
  | bool b => exact ⟨_, .done _, readsAs_bool b⟩
  | str s => exact ⟨_, .done _, readsAs_str s⟩
  | @list xs _ ih =>
    cases xs with
    | nil =>
      refine ⟨"[]".toList, .done _, ⟨'[', _, rfl, rfl, by decide⟩, fun {n} rest hn => ?_⟩
      cases n with
      | zero => cases hn
      | succ n => rfl
    | cons x xs =>
      obtain ⟨cs, hcs, hstart, hreads⟩ :=
        exists_items (List.cons_ne_nil x xs) (fun y hy => ih y hy (level + 1)) true
      refine ⟨_, (Prints.done _).andThen (hcs.andThen (.done _)), ?_⟩
      have hread := readsAs_list (isGap_lineStart (level + 1)) (isGap_lineStart level) hstart hreads
      simpa [String.toList_append, itemBreak] using hread
  | @object fields _ hkeys ih =>
    cases fields with
    | nil =>
      refine ⟨"\x7b\x7d".toList, .done _, ⟨'\x7b', _, rfl, rfl, by decide⟩, fun {n} rest hn => ?_⟩
      cases n with
      | zero => cases hn
      | succ n => rfl
    | cons f fields =>
      obtain ⟨cs, hcs, hstart, hreads⟩ :=
        exists_pairs (List.cons_ne_nil f fields) hkeys (fun y hy => ih y hy (level + 1)) true
      refine ⟨_, (Prints.done _).andThen (hcs.andThen (.done _)), ?_⟩
      have hread :=
        readsAs_object (isGap_lineStart (level + 1)) (isGap_lineStart level) hstart hreads
      simpa [String.toList_append, itemBreak] using hread

theorem parse_render {v : Data} (h : Plain v) :
    (render v).complete = true ∧ parse (render v).text = .ok v := by
  obtain ⟨cs, hprints, hreads⟩ := h.exists_text 0
  refine ⟨hprints.1, ?_⟩
  have hvalue := hreads.reads (n := cs.length + 1) [] (by omega)
  have hnone : IsGap [] := fun c hc => absurd hc List.not_mem_nil
  have hskip := hreads.starts.skip hnone []
  rw [List.append_nil] at hvalue hskip
  rw [List.nil_append] at hskip
  show (readValue ((render v).text.toList.length + 1) (skipSpace (render v).text.toList) >>= _) = _
  rw [show (render v).text.toList = cs from hprints.2, hskip, hvalue]
  rfl

/-! ## characters -/

/-- a line end, or a character from the blank to the tilde -/
def IsAscii (c : Char) : Prop := c = '\n' ∨ 32 ≤ c.toNat ∧ c.toNat < 127

instance : DecidablePred IsAscii := fun _ => inferInstanceAs (Decidable (_ ∨ _))

def AsciiText (cs : List Char) : Prop := ∀ c ∈ cs, IsAscii c

theorem AsciiText.append {cs ds : List Char} (hcs : AsciiText cs) (hds : AsciiText ds) :
    AsciiText (cs ++ ds) :=
  List.forall_mem_append.mpr ⟨hcs, hds⟩

/-- A text that is written out is checked character by character. -/
theorem AsciiText.literal {cs : List Char} (h : cs.all (fun c => decide (IsAscii c)) = true) :
    AsciiText cs :=
  fun c hc => of_decide_eq_true (List.all_eq_true.mp h c hc)

theorem ascii_unitText (n : Nat) : AsciiText (unitText n) := by
  have hdigit : ∀ m < 16, IsAscii (Nat.digitChar m) := by decide
  have hstart : AsciiText ['\\', 'u'] := .literal rfl
  refine hstart.append fun c hc => ?_
  obtain ⟨m, hm, rfl⟩ := Text.digit_of_mem_hexText hc
  exact hdigit m hm

theorem ascii_charText (c : Char) : AsciiText (charText c) := by
  unfold charText
  dsimp only
  -- the characters that have an escape of their own
  iterate 7
    split
    · exact .literal rfl
  split
  · rename_i hprinted
    exact List.forall_mem_singleton.mpr (.inr hprinted)
  split
  · exact ascii_unitText _
  · exact (ascii_unitText _).append (ascii_unitText _)

theorem ascii_stringText (s : String) : AsciiText (stringText s).toList := by
  have hquote : AsciiText ['"'] := .literal rfl
  have hbody : AsciiText (s.toList.flatMap charText) :=
    List.forall_mem_flatMap.mpr fun c _ => ascii_charText c
  rw [toList_stringText]
  exact hquote.append (hbody.append hquote)

theorem ascii_lineStart (level : Nat) : AsciiText (lineStart level).toList := by
  have hblanks : AsciiText (List.replicate (2 * level) ' ') := by
    intro c hc
    rw [List.eq_of_mem_replicate hc]
    decide
  simp only [lineStart, String.toList_append, String.toList_ofList]
  exact .append (.literal rfl) hblanks

theorem ascii_itemBreak (first : Bool) (level : Nat) :
    AsciiText (itemBreak first level).toList := by
  unfold itemBreak
  split
  · exact .literal rfl
  · rw [String.toList_append]
    exact .append (.literal rfl) (ascii_lineStart level)

/-- What is written has no other characters. -/
def Written.Ascii (w : Written) : Prop := AsciiText w.text.toList

theorem Written.Ascii.andThen {a b : Written} (ha : a.Ascii) (hb : b.Ascii) :
    (a.andThen b).Ascii := by
  unfold Written.andThen
  split
  · rw [Written.Ascii, String.toList_append]
    exact AsciiText.append ha hb
  · exact ha

theorem ascii_brackets {before after : String} (hbefore : AsciiText before.toList)
    (hafter : AsciiText after.toList) {level : Nat} {w : Written} (h : w.Ascii) :
    ((Written.done (before ++ lineStart (level + 1))).andThen
      (w.andThen (.done (lineStart level ++ after)))).Ascii := by
  have hopen : (Written.done (before ++ lineStart (level + 1))).Ascii := by
    rw [Written.Ascii, Written.done, String.toList_append]
    exact hbefore.append (ascii_lineStart _)
  have hclose : (Written.done (lineStart level ++ after)).Ascii := by
    rw [Written.Ascii, Written.done, String.toList_append]
    exact (ascii_lineStart _).append hafter
  exact hopen.andThen (h.andThen hclose)

theorem ascii_items {xs : List Data} {level : Nat} (h : ∀ x ∈ xs, (write level x).Ascii)
    (first : Bool) : (writeItems level first xs).Ascii := by
  induction xs generalizing first with
  | nil => exact .literal rfl
  | cons x xs ih =>
    rw [List.forall_mem_cons] at h
    have hbreak : (Written.done (itemBreak first level)).Ascii := ascii_itemBreak first level
    exact hbreak.andThen (h.1.andThen (ih h.2 false))

theorem ascii_pairs {fields : List (String × Data)} {level : Nat}
    (h : ∀ f ∈ fields, (write level f.2).Ascii) (first : Bool) :
    (writePairs level first (fields.map pairOf)).Ascii := by
  induction fields generalizing first with
  | nil => exact .literal rfl
  | cons f fields ih =>
    rw [List.forall_mem_cons] at h
    have hkey : (Written.done (itemBreak first level ++ stringText f.1 ++ ": ")).Ascii := by
      rw [Written.Ascii, Written.done, String.toList_append, String.toList_append]
      exact ((ascii_itemBreak first level).append (ascii_stringText f.1)).append (.literal rfl)
    exact hkey.andThen (h.1.andThen (ih h.2 false))

/-- Whatever a plain value holds, nothing but line ends and printed ASCII characters is written for
it. -/
theorem Plain.ascii {v : Data} (h : Plain v) (level : Nat) : (write level v).Ascii := by
  induction h generalizing level with
  | null =>
    rw [write]
    exact .literal rfl
  | bool b =>
    rw [write]
    cases b <;> exact .literal rfl
  | str s => exact ascii_stringText s
  | @list xs _ ih =>
    rw [write]
    split
    · exact .literal rfl
    · exact ascii_brackets (.literal rfl) (.literal rfl)
        (ascii_items (fun x hx => ih x hx (level + 1)) true)
  | @object fields _ _ ih =>
    rw [Data.object, write]
    split
    · exact .literal rfl
    · exact ascii_brackets (.literal rfl) (.literal rfl)
        (ascii_pairs (fun f hf => ih f hf (level + 1)) true)

theorem Plain.noReturn {v : Data} (h : Plain v) (level : Nat) :
    '\r' ∉ (write level v).text.toList :=
  fun hmem => absurd (h.ascii level '\r' hmem) (by decide)

end Json

end Apidoc
