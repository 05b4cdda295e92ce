import Apidoc.Proofs.Data.Yaml.Keys

/-!
# Scans of blocks

What a scan does with the lines of a written map or list.

* `Blocks`               the blocks that are open and the tokens so far, which is all that a scan
                         knows between the lines;
* `Blocks.EndsAs`        blocks that are closed by the next line;
* `Blocks.KeyToken`      texts that are scanned as one token before a colon;
* `Blocks.KeyScans`      texts that are scanned as keys, and `Blocks.leads_key`, a key and its
                         colon;
* `Blocks.leads_mark`    a mark at the start of a line;
* `Blocks.leads_string`  a string behind a key or a mark, up to the start of the next line.
-/

namespace Apidoc.Yaml

open Plain (Bare Stops FoldsBelow)
open Quoted (FoldsInside Breakable)

variable {cs rest : List Char}

/-- the blocks that are open and the tokens so far, the latest first -/
structure Blocks where
  indent : Int
  outer : List Int
  tokens : List Token

namespace Blocks

open Scan (Leads)

variable {a b d : Blocks} {c c' : Cursor} {t : Token}

/-- a scan outside brackets, without a place in hand where a key may have started -/
def scan (b : Blocks) (c : Cursor) (allowed : Bool) : Scan :=
  { cursor := c, indent := b.indent, outer := b.outer, depth := 0, keyAllowed := allowed,
    places := [],
    tokens := b.tokens, count := b.tokens.length }

def add (b : Blocks) (ts : List Token) : Blocks := { b with tokens := ts.reverse ++ b.tokens }

/-- The first line at a column opens a block, with the token `o`. -/
def enter (b : Blocks) (o : Token) (column : Nat) : Blocks :=
  if b.indent < column then ⟨column, b.indent :: b.outer, o :: b.tokens⟩ else b

theorem indent_enter {column : Nat} (h : b.indent ≤ column) (o : Token) :
    (b.enter o column).indent = column := by
  unfold enter
  split
  · rfl
  · omega

theorem add_add (b : Blocks) (ts us : List Token) : (b.add ts).add us = b.add (ts ++ us) := by
  simp [add]

/-- A line that is not below `b` closes the blocks of `a` that are not in `b`. -/
def EndsAs (a b : Blocks) : Prop :=
  ∀ (c : Cursor) (allowed : Bool) (column : Int), column ≤ b.indent →
    (a.scan c allowed).unwind column = (b.scan c allowed).unwind column

theorem EndsAs.refl (b : Blocks) : b.EndsAs b := fun _ _ _ _ => rfl

theorem EndsAs.trans (h : a.EndsAs b) (h' : b.EndsAs d) (hle : d.indent ≤ b.indent) : a.EndsAs d :=
  fun c allowed column hcolumn => (h c allowed column (Int.le_trans hcolumn hle)).trans
    (h' c allowed column hcolumn)

/-- A block that was entered is closed with a token of its own. -/
theorem endsAs_enter {column : Nat} (h : b.indent < column) (o : Token) (ts : List Token) :
    ((b.enter o column).add ts).EndsAs (b.add (o :: (ts ++ [.closeBlock]))) := by
  intro c allowed line hline
  have hdeeper : line < (column : Int) := Int.lt_of_le_of_lt hline h
  have htokens : .closeBlock :: (ts.reverse ++ o :: b.tokens) =
      (o :: (ts ++ [.closeBlock])).reverse ++ b.tokens := by
    simp
  simp only [enter, if_pos h, Scan.unwind, scan, add, if_true, Scan.unwindFrom, if_pos hdeeper,
    Scan.emit, ← htokens, List.length_cons]

theorem unwind_stay {column : Int} (h : b.indent ≤ column) (c : Cursor) (allowed : Bool) :
    (b.scan c allowed).unwind column = b.scan c allowed := by
  have hnot : ¬ column < b.indent := by omega
  cases houter : b.outer with
  | nil => simp [Scan.unwind, scan, houter, Scan.unwindFrom]
  | cons i outer => simp [Scan.unwind, scan, houter, Scan.unwindFrom, hnot]

/-- One token outside brackets, after a gap and the ends of blocks. -/
theorem leads_step {allowed allowed' : Bool} {x : Char} {s : Scan}
    (hgap : (a.scan c allowed).skipGap = a.scan c' allowed')
    (hunwind : (a.scan c' allowed').unwind c'.column = b.scan c' allowed')
    (hrest : c'.rest = x :: cs) (htoken : (b.scan c' allowed').token x cs = some s)
    (hless : s.cursor.rest.length < c.rest.length) : Leads (a.scan c allowed) s :=
  Scan.leads_token (u := a.scan c' allowed') hgap rfl hunwind hrest htoken hless

/-! ## keys -/

/-- a scan with places in hand where a key may have started -/
def holding (b : Blocks) (c : Cursor) (allowed : Bool) (ps : List (Nat × KeyPlace)) : Scan :=
  { b.scan c allowed with places := ps }

def places (b : Blocks) (c : Cursor) (allowed : Bool) : List (Nat × KeyPlace) :=
  if allowed then
    [(0, ⟨b.tokens.length, b.indent == (c.column : Int), c.index, c.line, c.column⟩)] else []

theorem content_eq (b : Blocks) (c : Cursor) (allowed : Bool) (t : Token) (rest : List Char)
    (fresh : Bool) :
    (b.scan c allowed).content t rest fresh =
      some ((b.add [t]).holding (c.moveTo rest) fresh (b.places c allowed)) := by
  cases allowed <;> rfl

def keyed (b : Blocks) (c c' : Cursor) (t : Token) : Scan :=
  (b.add [t]).holding c' false (b.places c true)

theorem value_keyed (b : Blocks) (c c' : Cursor) (t : Token) :
    (b.keyed c c' t).value = some (((b.enter .openMapping c.column).add [.key, t, .value]).scan
      (c'.skip 1) false) := by
  have hone : b.tokens.length + 1 - b.tokens.length = 1 := by omega
  have htwo : b.tokens.length + 1 + 1 - b.tokens.length = 2 := by omega
  by_cases h : b.indent < c.column
  · simp [keyed, holding, places, Scan.value, Scan.place?, Scan.dropPlace, Scan.insert, Scan.deepen,
      Scan.allow, Scan.skip, Scan.emit, scan, add, enter, h, hone, htwo]
  · simp [keyed, holding, places, Scan.value, Scan.place?, Scan.dropPlace, Scan.insert, Scan.deepen,
      Scan.allow, Scan.skip, Scan.emit, scan, add, enter, h, hone]

/-- A colon on the line of a scalar makes it a key. -/
theorem leads_colon (hrest : c'.rest = ':' :: rest) (hafter : endsOr isGap rest = true)
    (hline : c'.line = c.line) (hindex : c'.index ≤ c.index + 1024)
    (hindent : b.indent ≤ c'.column) :
    Leads (b.keyed c c' t) (((b.enter .openMapping c.column).add [.key, t, .value]).scan
      (c'.skip 1) false) := by
  have hgap : (b.keyed c c' t).skipGap = b.keyed c c' t := by
    refine Scan.skipGap_begins (s := b.keyed c c' t) ?_
    show Begins c'.rest
    rw [hrest]
    exact begins_cons rfl (by decide) (by decide) _
  have hexpire : (b.keyed c c' t).expire = some (b.keyed c c' t) := by
    have hindex : ¬ c.index + 1024 < c'.index := by omega
    simp [Scan.expire, keyed, holding, places, scan, add, hline, hindex]
  have hunwind : (b.keyed c c' t).unwind (b.keyed c c' t).cursor.column = b.keyed c c' t := by
    have hnot : ¬ (c'.column : Int) < b.indent := by omega
    cases houter : b.outer with
    | nil => simp [Scan.unwind, keyed, holding, scan, add, houter, Scan.unwindFrom]
    | cons i outer => simp [Scan.unwind, keyed, holding, scan, add, houter, Scan.unwindFrom, hnot]
  refine Scan.leads_token hgap hexpire hunwind hrest
    ((Scan.token_colon _ hafter).trans (value_keyed b c c' t)) ?_
  show (c'.skip 1).rest.length < c'.rest.length
  rw [Cursor.rest_skip, hrest]
  simp

/-- A text that is scanned as a token before a colon. -/
structure KeyToken (cs : List Char) (t : Token) : Prop where
  nonempty : cs ≠ []
  ascii : ∀ x ∈ cs, isAsciiText x = true
  begins : ∀ rest, Begins (cs ++ ':' :: rest)
  /-- at the start of a line it is not taken for the end of a document -/
  inside : ∀ rest, isSeparator (cs ++ ':' :: rest) = false
  token : ∀ (b : Blocks) {c : Cursor} {rest : List Char}, c.rest = cs ++ ':' :: rest →
  endsOr isGap rest = true →
    ∃ x xs, c.rest = x :: xs ∧ (b.scan c true).token x xs = (b.scan c true).content t
      (':' :: rest) false

/-- Besides, the colon is not too far from the start of the text, so that it makes it a key. -/
structure KeyScans (cs : List Char) (t : Token) : Prop extends KeyToken cs t where
  short : cs.length ≤ 1024

theorem keyToken_text (hline : '\n' ∉ cs) :
    KeyToken (stringText none 0 cs) (.scalar cs (isPlain cs)) where
  nonempty := (begins_text none 0 cs []).1
  ascii := ascii_text hline 0
  begins rest := (begins_text none 0 cs (':' :: rest)).2
  inside := not_separator_text cs
  token b c rest hrest hafter := by
    have hstop : Stops ((b.scan c true).indent + 1) (':' :: rest) (':' :: rest) false :=
      .colon hafter
    obtain ⟨x, xs, hxs, _, htoken⟩ := token_string (s := b.scan c true) rfl hrest nofun nofun
      (fun h => absurd (h.resolve_left nofun) hline) hstop
      (fun _ => by rw [show (b.scan c true).cursor.rest =
        c.rest from rfl, hrest]; exact not_separator_text cs rest)
    refine ⟨x, xs, hxs, ?_⟩
    rw [htoken]
    split
    · rename_i h
      rw [h]
    · rename_i h
      rw [Bool.eq_false_iff.mpr h]

theorem keyScans_text (hline : '\n' ∉ cs) (hshort : (stringText none 0 cs).length ≤ 1024) :
    KeyScans (stringText none 0 cs) (.scalar cs (isPlain cs)) :=
  ⟨keyToken_text hline, hshort⟩

theorem keyScans_bare (hcs : Bare cs) (hshort : cs.length ≤ 1024)
    (hstart : startsStructure cs = false) : KeyScans cs (.scalar cs true) where
  nonempty := hcs.nonempty
  ascii := hcs.ascii
  short := hshort
  begins rest := by
    obtain ⟨x, ys, hxs, hascii, hspace, hhash⟩ := hcs.exists_head
    rw [hxs]
    exact begins_cons hascii hspace hhash _
  inside rest := not_separator_of_start hstart rest
  token b c rest hrest hafter := by
    have hwrap : wrap none false 0 none cs = cs := by simp [wrap_none false 0 none hcs.ascii]
    have hwrapped : (b.scan c true).cursor.rest = wrap none false 0 none cs ++ ':' :: rest :=
      hwrap.symm ▸ hrest
    have hstop : Stops ((b.scan c true).indent + 1) (':' :: rest) (':' :: rest) false :=
      .colon hafter
    obtain ⟨x, xs, hxs, _, htoken⟩ := token_bare rfl hwrapped nofun hstop hcs hstart fun _ => by
      rw [show (b.scan c true).cursor.rest = c.rest from rfl, hrest]
      exact not_separator_of_start hstart rest
    exact ⟨x, xs, hxs, htoken⟩

theorem leads_scalar (hk : KeyToken cs t) (hrest : c.rest = cs ++ ':' :: rest)
    (hafter : endsOr isGap rest = true)
    (hunwind : (a.scan c true).unwind c.column = b.scan c true) :
    Leads (a.scan c true) (b.keyed c (c.moveTo (':' :: rest)) t) := by
  obtain ⟨x, xs, hxs, htoken⟩ := hk.token b hrest hafter
  refine leads_step (Scan.skipGap_begins ?_) hunwind hxs
    (htoken.trans (content_eq b c true t _ _)) ?_
  · rw [show (a.scan c true).cursor.rest = c.rest from rfl, hrest]
    exact hk.begins rest
  · show (c.moveTo (':' :: rest)).rest.length < c.rest.length
    have hpos := List.length_pos_iff.mpr hk.nonempty
    rw [Cursor.rest_moveTo hrest, hrest, List.length_append]
    omega

/-- A key with its colon, and the block that it opens if it is the first at its column. -/
theorem leads_key (hk : KeyScans cs t) (hrest : c.rest = cs ++ ':' :: rest)
    (hafter : endsOr isGap rest = true) (hunwind : (a.scan c true).unwind c.column = b.scan c true)
    (hindent : b.indent ≤ c.column) :
    ∃ c', c'.rest = rest ∧ c.column ≤ c'.column ∧
      Leads (a.scan c true)
      (((b.enter .openMapping c.column).add [.key, t, .value]).scan c' false) := by
  have hscalar := leads_scalar hk.toKeyToken hrest hafter hunwind
  have hmove := Cursor.moveTo_inline hrest hk.ascii
  refine ⟨(c.moveTo (':' :: rest)).skip 1, ?_, ?_, hscalar.trans (leads_colon ?_ hafter ?_ ?_ ?_)⟩
  · rw [Cursor.rest_skip, Cursor.rest_moveTo hrest]
    rfl
  · rw [hmove]
    show c.column ≤ c.column + _ + 1
    omega
  · exact Cursor.rest_moveTo hrest
  · rw [hmove]
  · rw [hmove]
    exact Nat.add_le_add_left hk.short c.index
  · rw [hmove]
    show b.indent ≤ ((c.column + _ : Nat) : Int)
    omega

/-! ## marks -/

/-- the marks that can start a line, each with the token that opens its block and its own token -/
def marks : List (Char × Token × Token) :=
  [('-', .openSequence, .item), ('?', .openMapping, .key), (':', .openMapping, .value)]

theorem openBlock_scan (b : Blocks) (c : Cursor) (o : Token) :
    (b.scan c true).openBlock o = some ((b.enter o c.column).scan c true) := by
  by_cases h : b.indent < c.column
  · simp [Scan.openBlock, Scan.deepen, Scan.emit, scan, enter, h]
  · simp [Scan.openBlock, Scan.deepen, scan, enter, h]

theorem token_mark {x : Char} {o : Token} (hx : (x, o, t) ∈ marks)
    (hafter : endsOr isGap rest = true) (b : Blocks) (c : Cursor) :
    (b.scan c true).token x rest = some (((b.enter o c.column).add [t]).scan c.next true) := by
  simp only [marks, List.mem_cons, Prod.mk.injEq, List.not_mem_nil, or_false] at hx
  rcases hx with ⟨rfl, rfl, rfl⟩ | ⟨rfl, rfl, rfl⟩ | ⟨rfl, rfl, rfl⟩
  · rw [Scan.token_dash _ hafter, Scan.item, openBlock_scan]
    rfl
  · rw [Scan.token_question _ hafter, Scan.key, openBlock_scan]
    rfl
  · rw [Scan.token_colon _ hafter, Scan.value, openBlock_scan]
    rfl

theorem begins_mark {x : Char} (hx : x ∈ marks.map (·.1)) (cs : List Char) : Begins (x :: cs) := by
  simp only [marks, List.map_cons, List.map_nil, List.mem_cons, List.not_mem_nil, or_false] at hx
  rcases hx with rfl | rfl | rfl
  · exact begins_cons rfl (by decide) (by decide) cs
  · exact begins_cons rfl (by decide) (by decide) cs
  · exact begins_cons rfl (by decide) (by decide) cs

/-- A mark, and the block that it opens if it is the first at its column. -/
theorem leads_mark {x : Char} {o : Token} (hx : (x, o, t) ∈ marks) (hrest : c.rest = x :: rest)
    (hafter : endsOr isGap rest = true)
    (hunwind : (a.scan c true).unwind c.column = b.scan c true) :
    ∃ c', c'.rest = rest ∧ c'.column = c.column + 1 ∧
      Leads (a.scan c true) (((b.enter o c.column).add [t]).scan c' true) := by
  have hbegins : Begins (x :: rest) := begins_mark (List.mem_map_of_mem hx) rest
  have hnext := Cursor.next_inline hrest (hbegins x rfl).1
  refine ⟨c.next, by rw [hnext], by rw [hnext], leads_step (Scan.skipGap_begins
    ?_) hunwind hrest (token_mark hx hafter b c) ?_⟩
  · rw [show (a.scan c true).cursor.rest = c.rest from rfl, hrest]
    exact hbegins
  · show c.next.rest.length < c.rest.length
    rw [hnext, hrest]
    simp

/-! ## values -/

/-- What comes after a value: a line end and the start of the next line, or the end of the text. -/
structure NextLine (j : Nat) (text rest : List Char) : Prop where
  line : text = '\n' :: (spaces j ++ rest)
  begins : Begins rest
  inside : j = 0 → isSeparator rest = false
  last : rest = [] → j = 0

theorem nextLine_end : NextLine 0 ['\n'] [] := ⟨rfl, nofun, fun _ => rfl, fun _ => rfl⟩

variable {text : List Char} {j : Nat}

theorem NextLine.stops (h : NextLine j text rest) {indent : Int} (hj : (j : Int) < indent) :
    Stops indent text rest true := by
  rw [h.line]
  cases rest with
  | nil =>
    obtain rfl := h.last rfl
    exact .line rfl hj
  | cons x rest =>
    obtain ⟨hascii, hspace, _⟩ := h.begins x rfl
    exact .line (Plain.breaks_indented j (isGap_of_ascii hascii hspace) h.inside) hj

def Passing (ps : List (Nat × KeyPlace)) (line : Nat) : Prop :=
  ∀ p ∈ ps, p.2.required = false ∧ p.2.line ≤ line

theorem passing_nil (line : Nat) : Passing [] line := nofun

theorem passing_places (h : b.indent < c.column) (allowed : Bool) :
    Passing (b.places c allowed) c.line := by
  intro p hp
  rw [places] at hp
  split at hp
  · rw [List.mem_singleton.mp hp]
    exact ⟨beq_eq_false_iff_ne.mpr (Int.ne_of_lt h), Nat.le_refl _⟩
  · cases hp

variable {ps : List (Nat × KeyPlace)} {line : Nat}

theorem expire_passing (h : Passing ps line) (hline : line < c.line) (b : Blocks) (allowed : Bool) :
    (b.holding c allowed ps).expire = some (b.scan c allowed) := by
  let isStale (p : Nat × KeyPlace) : Bool := p.2.line != c.line || p.2.index + 1024 < c.index
  have hstale : ∀ p ∈ ps, isStale p = true := by
    intro p hp
    have hne : p.2.line ≠ c.line := Nat.ne_of_lt (Nat.lt_of_le_of_lt (h p hp).2 hline)
    simp [isStale, hne]
  have hkept : ¬ (ps.any fun p => isStale p && p.2.required) = true := by
    rw [List.any_eq_true]
    rintro ⟨p, hp, hrequired⟩
    rw [(h p hp).1, Bool.and_false] at hrequired
    cases hrequired
  have hnone : (ps.filter fun p => !isStale p) = [] := by
    rw [List.filter_eq_nil_iff]
    intro p hp
    rw [hstale p hp]
    decide
  show (if (ps.any fun p => isStale p && p.2.required) = true then none
    else some { b.scan c allowed with places := ps.filter fun p => !isStale p }) = _
  rw [if_neg hkept, hnone]
  rfl

/-- On the next line a scan has no place in hand. -/
theorem leads_passing (hps : Passing ps line) (hline : line < c'.line) {allowed : Bool}
    (hgap : (b.holding c allowed ps).skipGap = b.holding c' true ps) (hbegins : Begins c'.rest)
    (hless : c'.rest.length ≤ c.rest.length) : Leads (b.holding c allowed ps) (b.scan c' true) := by
  intro n hn
  have hn : c.rest.length < n := hn
  refine ⟨n, Nat.lt_of_le_of_lt hless hn, ?_⟩
  obtain ⟨n, rfl⟩ : ∃ k, n = k + 1 := ⟨n - 1, by omega⟩
  have hstay : (b.scan c' true).skipGap = b.scan c' true := Scan.skipGap_begins hbegins
  have hexpire : (b.scan c' true).expire = some (b.scan c' true) := rfl
  rw [Scan.run, Scan.run, hgap, hstay, expire_passing hps hline, hexpire]

theorem leads_line (h : NextLine j c.rest rest) (b : Blocks) (allowed : Bool)
    (hps : Passing ps c.line) :
    ∃ c', c'.rest = rest ∧ c'.column = j ∧ Leads (b.holding c allowed ps) (b.scan c' true) := by
  have hsplit : c.rest = ('\n' :: spaces j) ++ rest := h.line
  have hnil : c.rest = [] ++ '\n' :: (spaces j ++ rest) := hsplit
  have hrest : (c.moveTo rest).rest = rest := Cursor.rest_moveTo hsplit
  refine ⟨c.moveTo rest, hrest, Cursor.column_moveTo hnil, ?_⟩
  refine leads_passing hps (Cursor.line_lt_moveTo hnil)
    (Scan.skipGap_line h.line h.begins rfl) ?_ ?_
  · rw [hrest]
    exact h.begins
  · rw [hrest, hsplit, List.length_append]
    omega

/-- Behind a blank the column is deeper than the block. -/
theorem indent_lt_next (hrest : c.rest = ' ' :: cs) (hindent : b.indent ≤ c.column) :
    b.indent < c.next.column := by
  rw [Cursor.next_inline hrest rfl]
  show b.indent < ((c.column + 1 : Nat) : Int)
  omega

theorem leads_blank {x : Char} {s : Scan} {allowed : Bool} (hrest : c.rest = ' ' :: x :: cs)
    (hbegins : Begins (x :: cs)) (hindent : b.indent ≤ c.column)
    (htoken : (b.scan c.next allowed).token x cs = some s)
    (hless : s.cursor.rest.length < c.rest.length) : Leads (b.scan c allowed) s := by
  have hmove : c.moveTo (x :: cs) = c.next := by rw [Cursor.moveTo, hrest]; simp [Cursor.skip]
  have hnext := Cursor.next_inline hrest rfl
  have hcolumn : b.indent ≤ c.next.column := Int.le_of_lt (indent_lt_next hrest hindent)
  have hgap : (b.scan c allowed).skipGap = b.scan c.next allowed :=
    hmove ▸ Scan.skipGap_blank hrest hbegins
  exact leads_step hgap (unwind_stay hcolumn _ _) (by rw [hnext]) htoken hless

/-- A blank and one token, which may or may not take the line end with it. -/
theorem leads_after {V : List Char} {allowed : Bool} (hrest : c.rest = ' ' :: (V ++ text))
    (hnext : NextLine j text rest) (hindent : b.indent ≤ c.column)
    (htoken : ∀ c', c'.rest = V ++ text → c'.column ≠ 0 → ∃ x xs, c'.rest = x :: xs ∧
      Begins (x :: xs) ∧
      ((b.scan c' allowed).token x xs = (b.scan c' allowed).content t rest true ∨
        (b.scan c' allowed).token x xs = (b.scan c' allowed).content t text false)) :
    ∃ c', c'.rest = rest ∧ c'.column = j ∧ Leads (b.scan c allowed) ((b.add [t]).scan c' true) := by
  have hblank := Cursor.next_inline hrest rfl
  have hafter : c.next.rest = V ++ text := by rw [hblank]
  have hps := passing_places (indent_lt_next hrest hindent) allowed
  obtain ⟨x, xs, hxs, hbegins, htoken⟩ :=
    htoken c.next hafter (by rw [hblank]; exact Nat.succ_ne_zero _)
  rw [hafter] at hxs
  have hline : c.next.rest = V ++ '\n' :: (spaces j ++ rest) := by rw [hafter, hnext.line]
  have hlength : c.rest.length = V.length + text.length + 1 := by simp [hrest]
  rw [hxs] at hrest
  rcases htoken with htoken | htoken
  · have hsplit : c.next.rest = (V ++ '\n' :: spaces j) ++ rest := by simp [hline]
    have hfinal := Cursor.rest_moveTo hsplit
    have hbegins' : Begins (c.next.moveTo rest).rest := by
      rw [hfinal]
      exact hnext.begins
    refine ⟨_, hfinal, Cursor.column_moveTo hline,
      (leads_blank hrest hbegins hindent (htoken.trans (content_eq ..)) ?_).trans
        (leads_passing hps (Cursor.line_lt_moveTo hline) (Scan.skipGap_begins hbegins') hbegins'
          (Nat.le_refl _))⟩
    show (c.next.moveTo rest).rest.length < _
    rw [hfinal, hlength, hnext.line]
    simp
    omega
  · have hfinal : (c.next.moveTo text).rest = text := Cursor.rest_moveTo hafter
    have hlater : Passing (b.places c.next allowed) (c.next.moveTo text).line := fun p hp =>
      ⟨(hps p hp).1, Nat.le_trans (hps p hp).2 (Cursor.line_le_skip _ _)⟩
    obtain ⟨c', hc', hcolumn, hleads⟩ := leads_line (hfinal.symm ▸ hnext) (b.add [t]) false hlater
    refine ⟨c', hc', hcolumn,
      (leads_blank hrest hbegins hindent (htoken.trans (content_eq ..)) ?_).trans hleads⟩
    show (c.next.moveTo text).rest.length < _
    rw [hfinal, hlength]
    omega

/-- Where the text of a value may be folded. -/
structure Below (b : Blocks) (k : Nat) : Prop where
  deeper : b.indent < k
  inside : 0 < k ∧ k < lineWidth

theorem Below.foldsBelow {k : Nat} (h : b.Below k) : FoldsBelow (b.indent + 1) (some k) := by
  intro i hi
  cases hi
  exact ⟨h.inside.1, h.deeper⟩

theorem leads_string {k column : Nat} {allowed : Bool} (hk : b.Below k)
    (hrest : c.rest = ' ' :: (stringText (some k) column cs ++ text)) (hnext : NextLine j text rest)
    (hj : (j : Int) ≤ b.indent) (hindent : b.indent ≤ c.column) :
    ∃ c', c'.rest = rest ∧ c'.column = j ∧
      Leads (b.scan c allowed) ((b.add [.scalar cs (isPlain cs)]).scan c' true) := by
  refine leads_after hrest hnext hindent fun c' hc' hcolumn => ?_
  have hinside : FoldsInside (some k) := by
    intro i hi
    cases hi
    exact hk.inside
  obtain ⟨x, xs, hxs, hbegins, htoken⟩ :=
    token_string (s := b.scan c' allowed) rfl hc' hinside hk.foldsBelow
    (fun _ => hk.inside.1) (hnext.stops (Int.lt_add_one_of_le hj)) (fun h => absurd h hcolumn)
  refine ⟨x, xs, hxs, hbegins, ?_⟩
  rw [htoken]
  cases isPlain cs with
  | true => exact .inl rfl
  | false => exact .inr rfl

theorem leads_form {k column : Nat} {allowed : Bool} (hk : b.Below k) (hcs : Bare cs)
    (hstart : startsStructure cs = false)
    (hrest : c.rest = ' ' :: (wrap (some k) false column none cs ++ text))
    (hnext : NextLine j text rest) (hj : (j : Int) ≤ b.indent) (hindent : b.indent ≤ c.column) :
    ∃ c', c'.rest = rest ∧ c'.column = j ∧
    Leads (b.scan c allowed) ((b.add [.scalar cs true]).scan c' true) := by
  refine leads_after hrest hnext hindent fun c' hc' hcolumn => ?_
  obtain ⟨x, xs, hxs, hbegins, htoken⟩ := token_bare (s := b.scan c' allowed) rfl hc' hk.foldsBelow
    (hnext.stops (Int.lt_add_one_of_le hj)) hcs hstart (fun h => absurd h hcolumn)
  exact ⟨x, xs, hxs, hbegins, .inl htoken⟩

theorem leads_brackets {x y : Char} {o e : Token} {allowed : Bool}
    (hopen : ∀ (s : Scan) cs, s.token x cs = s.openFlow o)
    (hclose : ∀ (s : Scan) cs, s.token y cs = s.closeFlow e) (hx : ∀ cs, Begins (x :: cs))
    (hy : ∀ cs, Begins (y :: cs)) (hrest : c.rest = ' ' :: x :: y :: text)
    (hnext : NextLine j text rest) (hindent : b.indent ≤ c.column) :
    ∃ c', c'.rest = rest ∧ c'.column = j ∧
    Leads (b.scan c allowed) ((b.add [o, e]).scan c' true) := by
  have hblank := Cursor.next_inline hrest rfl
  have hinside : c.next.rest = x :: y :: text := by rw [hblank]
  have hopened := Cursor.next_inline hinside (hx [] x rfl).1
  have hend : (c.next.next.next).rest = text := by rw [Cursor.rest_next, hopened]; rfl
  have hps := passing_places (indent_lt_next hrest hindent) allowed
  let opened : Scan :=
    { (b.add [o]).holding c.next.next true (b.places c.next allowed) with depth := 1 }
  have hfirst : Leads (b.scan c allowed) opened := by
    refine leads_blank hrest (hx _) hindent ((hopen _ _).trans ?_) ?_
    · cases allowed <;> rfl
    · show c.next.next.rest.length < _
      rw [hopened, hrest]
      simp
  have hgap : opened.skipGap = opened := by
    refine Scan.skipGap_begins ?_
    show Begins c.next.next.rest
    rw [hopened]
    exact hy _
  have hkept : opened.expire = some opened := by
    cases allowed with
    | false => rfl
    | true => simp [opened, Scan.expire, holding, places, scan, hopened]
  have hsecond : Leads opened ((b.add [o, e]).holding c.next.next.next false
      (b.places c.next allowed)) := by
    refine Scan.leads_token hgap hkept rfl (show c.next.next.rest = y :: text by rw [hopened])
      ((hclose _ _).trans ?_) ?_
    · cases allowed <;> rfl
    · show c.next.next.next.rest.length < c.next.next.rest.length
      rw [hend, hopened]
      simp
  have hlater : Passing (b.places c.next allowed) c.next.next.next.line := fun p hp =>
    ⟨(hps p hp).1, Nat.le_trans (hps p hp).2 (Cursor.line_le_skip 2 c.next)⟩
  obtain ⟨c', hc', hcolumn, hthird⟩ := leads_line (hend.symm ▸ hnext) (b.add [o, e]) false hlater
  exact ⟨c', hc', hcolumn, (hfirst.trans hsecond).trans hthird⟩

end Blocks

end Apidoc.Yaml
