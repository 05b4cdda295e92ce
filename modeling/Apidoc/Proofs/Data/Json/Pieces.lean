import Apidoc.Data.Json.Reader
import Apidoc.Proofs.Data.Json.Values
import Apidoc.Proofs.Text.Points
import Apidoc.Proofs.Text.Words
import Mathlib.Data.List.TakeWhile

/-!
# Documents inside documents

Outside of its strings a document holds few characters.  A piece of a document that starts inside a
string and is a document itself has its strings where the whole document has none, so they hold few
characters too.

* `Json.walk`              where a reader of a document stands after some characters, if none is out
                           of place;
* `Json.Piece`             a text that can be read from outside of strings; if the whole can be read
                           with that text from inside a string on, something is known of what it
                           holds;
* `Json.BareKeys`          data in which all keys could stand outside of strings;
* `Json.piece_of_parse`    a document that is such a piece of another one has bare keys only.
-/

namespace Apidoc.Json

/-! ## where a reader stands -/

/-- the characters that stand outside of strings besides quotes, digits and blanks: those of
brackets, numbers and words -/
def marks : List Char :=
  ['[', ']', '\x7b', '\x7d', ':', ',', '+', '-', '.', 'e', 'E', 'n', 'u', 'l', 't', 'r', 'f', 'a',
    's', 'N', 'I', 'i', 'y']

def isBare (c : Char) : Bool := c.isDigit || isSpace c || marks.contains c

inductive Place where
  | outside
  | inside
  /-- after a backslash inside a string -/
  | escaped

/-- where a reader stands after some characters, if none is out of place -/
def walk : Place → List Char → Option Place
  | place, [] => some place
  | .outside, c :: cs =>
    if c = '"' then walk .inside cs else if isBare c then walk .outside cs else none
  | .inside, c :: cs =>
    if c = '"' then walk .outside cs else if c = '\\' then walk .escaped cs else walk .inside cs
  | .escaped, _ :: cs => walk .inside cs

theorem walk_append (place : Place) (p q : List Char) :
    walk place (p ++ q) = (walk place p).bind fun place' => walk place' q := by
  fun_induction walk place p with
  | case1 place => rfl
  | case2 cs ih => simpa [walk] using ih
  | case3 c cs hquote hbare ih => simpa [walk, hquote, hbare] using ih
  | case4 c cs hquote hbare => simp [walk, hquote, hbare]
  | case5 cs ih => simpa [walk] using ih
  | case6 cs hquote ih => simpa [walk] using ih
  | case7 c cs hquote hslash ih => simpa [walk, hquote, hslash] using ih
  | case8 c cs ih => simpa [walk] using ih

theorem exists_walk {place place' : Place} {p q : List Char}
    (h : walk place (p ++ q) = some place') :
    ∃ mid, walk place p = some mid ∧ walk mid q = some place' := by
  rw [walk_append] at h
  exact Option.bind_eq_some_iff.mp h

theorem ne_quote_of_bare {c : Char} (h : isBare c = true) : c ≠ '"' := by
  rintro rfl
  exact absurd h (by decide)

theorem ne_slash_of_bare {c : Char} (h : isBare c = true) : c ≠ '\\' := by
  rintro rfl
  exact absurd h (by decide)

theorem walk_outside_bare {p : List Char} (h : ∀ c ∈ p, isBare c = true) :
    walk .outside p = some .outside := by
  induction p with
  | nil => rfl
  | cons c p ih =>
    rw [List.forall_mem_cons] at h
    rw [walk, if_neg (ne_quote_of_bare h.1), if_pos h.1, ih h.2]

theorem walk_inside {p : List Char} (h : ∀ c ∈ p, c ≠ '"' ∧ c ≠ '\\') :
    walk .inside p = some .inside := by
  induction p with
  | nil => rfl
  | cons c p ih =>
    rw [List.forall_mem_cons] at h
    rw [walk, if_neg h.1.1, if_neg h.1.2, ih h.2]

/-! ## bare characters -/

/-- The first text starts with bare characters, and the second one is what follows them. -/
def Bares (cs rest : List Char) : Prop := ∃ p, cs = p ++ rest ∧ ∀ c ∈ p, isBare c = true

namespace Bares

variable {cs ds es : List Char}

theorem refl (cs : List Char) : Bares cs cs := ⟨[], rfl, List.forall_mem_nil _⟩

theorem mark {c : Char} (h : isBare c = true) (rest : List Char) : Bares (c :: rest) rest :=
  ⟨[c], rfl, List.forall_mem_singleton.mpr h⟩

theorem trans (h : Bares cs ds) (h' : Bares ds es) : Bares cs es := by
  obtain ⟨p, rfl, hp⟩ := h
  obtain ⟨q, rfl, hq⟩ := h'
  exact ⟨p ++ q, (List.append_assoc p q es).symm, List.forall_mem_append.mpr ⟨hp, hq⟩⟩

theorem skip (cs : List Char) : Bares cs (skipSpace cs) := by
  refine ⟨cs.takeWhile isSpace, List.takeWhile_append_dropWhile.symm, fun c hc => ?_⟩
  rw [isBare, List.mem_takeWhile_imp hc, Bool.or_true, Bool.true_or]

theorem skipMark {c : Char} (h : skipSpace cs = c :: ds) (hc : isBare c = true) : Bares cs ds :=
  (skip cs).trans (h ▸ mark hc ds)

theorem digits (cs : List Char) : Bares cs (cs.drop (digitsOf cs).length) := by
  have hdrop : cs.drop (digitsOf cs).length = cs.dropWhile Char.isDigit := by
    conv_lhs => arg 2; rw [← List.takeWhile_append_dropWhile (p := Char.isDigit) (l := cs)]
    exact List.drop_left
  refine ⟨digitsOf cs, ?_, fun c hc => ?_⟩
  · rw [hdrop]
    exact List.takeWhile_append_dropWhile.symm
  · rw [isBare, List.mem_takeWhile_imp hc, Bool.true_or, Bool.true_or]

theorem whole (cs : List Char) : Bares cs (cs.drop (wholeDigits cs).length) := by
  unfold wholeDigits
  split
  · exact .mark rfl _
  · exact digits cs

theorem fraction (cs : List Char) :
    Bares cs (if (fractionDigits cs).isEmpty then cs else cs.drop
      ((fractionDigits cs).length + 1)) := by
  split
  · exact .refl cs
  · next hsome =>
    unfold fractionDigits at hsome ⊢
    split at hsome
    · exact (mark rfl _).trans (digits _)
    · exact absurd rfl hsome

theorem exponent (cs : List Char) : Bares cs (cs.drop (exponentPart cs).2) := by
  unfold exponentPart
  split
  · next e cs =>
    split
    · next he =>
      have hmark : Bares (e :: cs) cs := by
        rcases he with rfl | rfl
        · exact .mark rfl cs
        · exact .mark rfl cs
      split
      next sign ds n hparts =>
      split
      · exact .refl _
      · have hrest : Bares cs (cs.drop (n + ds.length)) := by
          split at hparts
          · cases hparts
            rw [Nat.add_comm]
            exact (mark rfl _).trans (digits _)
          · cases hparts
            rw [Nat.add_comm]
            exact (mark rfl _).trans (digits _)
          · cases hparts
            rw [Nat.zero_add]
            exact digits _
        have hdrop : (e :: cs).drop (1 + n + ds.length) = cs.drop (n + ds.length) := by
          rw [Nat.add_assoc, Nat.add_comm 1]
          rfl
        dsimp only
        rw [hdrop]
        exact hmark.trans hrest
    · exact .refl _
  · exact .refl _

theorem number {v : Data} (h : readNumber cs = .ok (v, ds)) : Bares cs ds := by
  unfold readNumber at h
  split at h
  next negative body hsign =>
  have hbody : Bares cs body := by
    split at hsign
    · cases hsign
      exact .mark rfl _
    · cases hsign
      exact .refl _
  have hwhole := whole body
  dsimp only at h
  split at h
  · cases h
  · generalize body.drop (wholeDigits body).length = cs₁ at h hwhole
    have hfraction := fraction cs₁
    generalize (if (fractionDigits cs₁).isEmpty then _ else _) = cs₂ at h hfraction
    split at h
    · split at h
      · cases h
      · cases h
        exact hbody.trans hwhole
    · cases h
      exact ((hbody.trans hwhole).trans hfraction).trans (exponent cs₂)

theorem literal {v : Data} (h : readLiteral cs = some (v, ds)) : Bares cs ds := by
  have hbare : ∀ l ∈ literals, l.1.all isBare = true := by decide
  obtain ⟨l, hl, h⟩ := List.exists_of_findSome?_eq_some h
  obtain ⟨rest, hdrop, h⟩ := Option.map_eq_some_iff.mp h
  cases h
  exact ⟨l.1, Text.dropWord?_eq_some hdrop, List.all_eq_true.mp (hbare l hl)⟩

end Bares

/-! ## pieces -/

/-- A text that leads a reader from outside of strings back there.  If it can be read inside a
string as well, it leads back there, and something holds. -/
structure Piece (p : List Char) (P : Prop) : Prop where
  outside : walk .outside p = some .outside
  inside : ∀ {place}, walk .inside p = some place → place = .inside ∧ P

theorem Piece.append {p q : List Char} {P Q : Prop} (hp : Piece p P) (hq : Piece q Q) :
    Piece (p ++ q) (P ∧ Q) where
  outside := by rw [walk_append, hp.outside, Option.bind_some, hq.outside]
  inside {place} hwalk := by
    obtain ⟨mid, hfirst, hlast⟩ := exists_walk hwalk
    obtain ⟨rfl, hP⟩ := hp.inside hfirst
    obtain ⟨rfl, hQ⟩ := hq.inside hlast
    exact ⟨rfl, hP, hQ⟩

/-- The first text starts with a piece, and the second one is what follows it. -/
def Spans (cs rest : List Char) (P : Prop) : Prop := ∃ p, cs = p ++ rest ∧ Piece p P

theorem Bares.spans {cs ds : List Char} (h : Bares cs ds) {P : Prop} (hP : P) : Spans cs ds P := by
  obtain ⟨p, hp, hbare⟩ := h
  refine ⟨p, hp, walk_outside_bare hbare, fun {place} hwalk => ?_⟩
  have hinside :=
    walk_inside fun c hc => ⟨ne_quote_of_bare (hbare c hc), ne_slash_of_bare (hbare c hc)⟩
  cases hinside.symm.trans hwalk
  exact ⟨rfl, hP⟩

namespace Spans

variable {cs ds es : List Char} {P Q : Prop}

theorem imp (h : Spans cs ds P) (himp : P → Q) : Spans cs ds Q := by
  obtain ⟨p, hp, hpiece⟩ := h
  exact ⟨p, hp, hpiece.outside, fun hwalk => ⟨(hpiece.inside hwalk).1,
    himp (hpiece.inside hwalk).2⟩⟩

theorem trans (h : Spans cs ds P) (h' : Spans ds es Q) : Spans cs es (P ∧ Q) := by
  obtain ⟨p, rfl, hp⟩ := h
  obtain ⟨q, rfl, hq⟩ := h'
  exact ⟨p ++ q, (List.append_assoc p q es).symm, hp.append hq⟩

theorem after (h : Spans ds es P) (hbare : Bares cs ds) : Spans cs es P :=
  ((hbare.spans trivial).trans h).imp (·.2)

theorem before (h : Spans cs ds P) (hbare : Bares ds es) : Spans cs es P :=
  (h.trans (hbare.spans trivial)).imp (·.1)

end Spans

/-! ## strings -/

theorem readPoints_drop {n : Nat} {cs : List Char} {r : Text.Points × List Char}
    (h : readPoints n cs = some r) : n ≤ cs.length ∧ readPoints 0 (cs.drop n) = some r := by
  induction n generalizing cs with
  | zero => exact ⟨Nat.zero_le _, h⟩
  | succ n ih =>
    cases cs with
    | nil => cases h
    | cons c cs =>
      have hdrop : readPoints n cs = some r := h
      obtain ⟨hle, hread⟩ := ih hdrop
      exact ⟨Nat.succ_le_succ hle, hread⟩

theorem unit_chars {cs : List Char} {n : Nat} (h : unit? cs = some n) :
    4 ≤ cs.length ∧ ∀ c ∈ cs.take 4, c ≠ '"' ∧ c ≠ '\\' := by
  unfold unit? at h
  dsimp only at h
  split at h
  · next hunit =>
    obtain ⟨hlength, hall⟩ := hunit
    rw [List.length_take] at hlength
    refine ⟨by omega, fun c hc => ?_⟩
    have hhex := List.all_eq_true.mp hall c hc
    refine ⟨?_, ?_⟩ <;> rintro rfl <;> exact absurd hhex (by decide)
  · cases h

theorem walk_take_unit {cs : List Char} {n : Nat} (h : unit? cs = some n) :
    walk .inside (cs.take 4) = some .inside :=
  walk_inside (unit_chars h).2

/-- The characters of an escaped unit, or of two, lead on inside the string. -/
theorem walk_unitPoint {cs : List Char} {n used : Nat} (h : unitPoint? cs = some (n, used)) :
    walk .inside (cs.take used) = some .inside := by
  unfold unitPoint? at h
  split at h
  · cases h
  · next hi hhi =>
    have hfirst := walk_take_unit hhi
    split at h
    · next ds _ hds =>
      split at h
      · next lo hlo =>
        split at h
        · obtain rfl := (Prod.mk.inj (Option.some.inj h)).2
          have hsplit : cs = cs.take 4 ++ '\\' :: 'u' :: ds := by rw [← hds, List.take_append_drop]
          have hlength : (cs.take 4).length = 4 := by
            rw [List.length_take, Nat.min_eq_left (unit_chars hhi).1]
          have htake : cs.take 10 = cs.take 4 ++ '\\' :: 'u' :: ds.take 4 := by
            conv_lhs => rw [hsplit]
            rw [List.take_append, hlength, List.take_of_length_le (by omega)]
            rfl
          rw [htake, walk_append, hfirst]
          exact walk_take_unit hlo
        · cases h
          exact hfirst
      · split at h
        · cases h
          exact hfirst
        · cases h
    · cases h
      exact hfirst

/-- Characters of a string, up to its closing quote, and the points they stand for.  If they and the
quote can be read outside of strings as well, each stands for itself. -/
structure Inner (w : List Char) (ps : Text.Points) : Prop where
  inside : walk .inside w = some .inside
  outside : ∀ {place}, walk .outside (w ++ ['"']) = some place →
    place = .inside ∧ ps = Text.points w ∧ ∀ c ∈ w, isBare c = true

theorem Inner.nil : Inner [] [] where
  inside := rfl
  outside hwalk := by
    cases hwalk
    exact ⟨rfl, rfl, List.forall_mem_nil _⟩

theorem Inner.char {c : Char} {w : List Char} {ps : Text.Points} (hquote : c ≠ '"')
    (hslash : c ≠ '\\') (hw : Inner w ps) : Inner (c :: w) (c.toNat :: ps) where
  inside := by rw [walk, if_neg hquote, if_neg hslash, hw.inside]
  outside {place} hwalk := by
    rw [List.cons_append, walk, if_neg hquote] at hwalk
    split at hwalk
    · next hbare =>
      obtain ⟨hplace, rfl, hall⟩ := hw.outside hwalk
      exact ⟨hplace, rfl, List.forall_mem_cons.mpr ⟨hbare, hall⟩⟩
    · cases hwalk

/-- An escape is no matter outside of strings, where no backslash stands. -/
theorem Inner.escape {d : Char} {u w : List Char} {ps qs : Text.Points}
    (hu : walk .inside u = some .inside) (hw : Inner w ps) : Inner ('\\' :: d :: (u ++ w)) qs where
  inside := by
    rw [walk, if_neg (by decide), if_pos rfl, walk, walk_append, hu, Option.bind_some, hw.inside]
  outside {place} hwalk := by
    rw [List.cons_append, walk, if_neg (by decide), if_neg (by decide)] at hwalk
    cases hwalk

/-- What is read as a string, its opening quote already read, goes up to the closing one. -/
theorem exists_inner {cs rest : List Char} {ps : Text.Points}
    (h : readPoints 0 cs = some (ps, rest)) : ∃ w, cs = w ++ '"' :: rest ∧ Inner w ps := by
  induction hn : cs.length using Nat.strongRecOn generalizing cs ps with
  | _ n ih =>
    cases cs with
    | nil => cases h
    | cons c cs =>
      subst hn
      rw [readPoints.eq_def] at h
      dsimp only at h
      split at h
      · next hquote =>
        cases h
        exact ⟨[], by rw [hquote]; rfl, .nil⟩
      · next hquote =>
        split at h
        · cases h
        · split at h
          · next hslash =>
            obtain ⟨⟨qs, rest'⟩, hread, he⟩ := Option.map_eq_some_iff.mp h
            cases he
            obtain ⟨w, rfl, hw⟩ := ih _ (Nat.lt_succ_self _) hread rfl
            exact ⟨c :: w, rfl, hw.char hquote hslash⟩
          · next hslash =>
            obtain rfl : c = '\\' := not_not.mp hslash
            split at h
            · cases h
            · next d ds =>
              -- `used` characters after `d` belong to the escape
              have hescape (used : Nat) {qs : Text.Points}
                (hread : readPoints (used + 1) (d :: ds) = some (qs, rest))
                  (hwalk : walk .inside (ds.take used) = some .inside) :
                  ∃ w, '\\' :: d :: ds = w ++ '"' :: rest ∧ Inner w ps := by
                have hdrop : readPoints 0 (ds.drop used) = some (qs, rest) :=
                  (readPoints_drop hread).2
                have hshort : (ds.drop used).length < ('\\' :: d :: ds).length := by
                  rw [List.length_drop, List.length_cons, List.length_cons]
                  omega
                obtain ⟨w, hw, hinner⟩ := ih _ hshort hdrop rfl
                refine ⟨'\\' :: d :: (ds.take used ++ w), ?_, hinner.escape hwalk⟩
                rw [List.cons_append, List.cons_append, List.append_assoc, ← hw,
                  List.take_append_drop]
              split at h
              · split at h
                · next hpoint =>
                  obtain ⟨⟨qs, rest'⟩, hread, he⟩ := Option.map_eq_some_iff.mp h
                  cases he
                  exact hescape _ hread (walk_unitPoint hpoint)
                · cases h
              · split at h
                · obtain ⟨⟨qs, rest'⟩, hread, he⟩ := Option.map_eq_some_iff.mp h
                  cases he
                  exact hescape 0 hread rfl
                · cases h

def BareText (s : String) : Prop := ∀ c ∈ s.toList, isBare c = true

theorem spans_string {cs rest : List Char} {s : String} (h : readString cs = .ok (s, rest)) :
    Spans ('"' :: cs) rest (BareText s) := by
  unfold readString at h
  split at h
  · next ps rest' hread =>
    cases h
    obtain ⟨w, rfl, hinner⟩ := exists_inner hread
    refine ⟨'"' :: (w ++ ['"']), by simp, ?_, fun {place} hwalk => ?_⟩
    · rw [walk, if_pos rfl, walk_append, hinner.inside]
      rfl
    · rw [walk, if_pos rfl] at hwalk
      obtain ⟨hplace, rfl, hw⟩ := hinner.outside hwalk
      refine ⟨hplace, ?_⟩
      rwa [BareText, Text.ofPoints_points, String.toList_ofList]
  · cases h

/-! ## documents -/

/-- Data in which all keys could stand outside of strings. -/
inductive BareKeys : Data → Prop
  | single {v : Data} (hlist : ∀ xs, v ≠ .list xs) (hmap : ∀ ps, v ≠ .map ps) : BareKeys v
  | list {xs : List Data} (h : ∀ x ∈ xs, BareKeys x) : BareKeys (.list xs)
  | map {ps : List (Data × Data)} (hkey : ∀ p ∈ ps, ∃ s, p.1 = .str s ∧ BareText s)
      (h : ∀ p ∈ ps, BareKeys p.2) :
    BareKeys (.map ps)

theorem bareKeys_literal {cs rest : List Char} {v : Data} (h : readLiteral cs = some (v, rest)) :
    BareKeys v := by
  have hkeys : ∀ l ∈ literals, BareKeys l.2 := by
    simp only [literals, List.forall_mem_cons]
    refine ⟨?_, ?_, ?_, ?_, ?_, ?_, List.forall_mem_nil _⟩ <;> refine .single ?_ ?_ <;>
      intro _ h <;> cases h
  obtain ⟨l, hl, h⟩ := List.exists_of_findSome?_eq_some h
  obtain ⟨rest', hdrop, h⟩ := Option.map_eq_some_iff.mp h
  cases h
  exact hkeys l hl

theorem bareKeys_number {cs rest : List Char} {v : Data} (h : readNumber cs = .ok (v, rest)) :
    BareKeys v := by
  rcases number_of_readNumber h with ⟨n, rfl⟩ | ⟨x, rfl⟩
  · exact .single nofun nofun
  · exact .single nofun nofun

theorem mem_setPair {ps : List (Data × Data)} {k v : Data} {q : Data × Data}
    (h : q ∈ setPair ps k v) : q.1 ∈ k :: ps.map (·.1) ∧ q.2 ∈ v :: ps.map (·.2) := by
  induction ps with
  | nil =>
    obtain rfl := List.mem_singleton.mp h
    exact ⟨List.mem_cons_self, List.mem_cons_self⟩
  | cons p ps ih =>
    rw [setPair, Ordered.set] at h
    split at h
    · rcases List.mem_cons.mp h with rfl | h
      · exact ⟨by simp, by simp⟩
      · exact ⟨by simp [List.mem_map_of_mem h], by simp [List.mem_map_of_mem h]⟩
    · rcases List.mem_cons.mp h with rfl | h
      · exact ⟨by simp, by simp⟩
      · obtain ⟨hkey, hvalue⟩ := ih h
        exact ⟨List.cons_subset_cons _ (List.subset_cons_self _ _) hkey,
          List.cons_subset_cons _ (List.subset_cons_self _ _) hvalue⟩

theorem BareKeys.setPair {ps : List (Data × Data)} (h : BareKeys (.map ps)) {k : String}
    (hk : BareText k) {v : Data} (hv : BareKeys v) : BareKeys (.map (setPair ps (.str k) v)) := by
  cases h with
  | single _ hmap => exact absurd rfl (hmap ps)
  | map hkey hvalue =>
    refine .map (fun q hq => ?_) fun q hq => ?_
    · rcases List.mem_cons.mp (mem_setPair hq).1 with hq | hq
      · exact ⟨k, hq, hk⟩
      · obtain ⟨p, hp, hpq⟩ := List.mem_map.mp hq
        exact hpq ▸ hkey p hp
    · rcases List.mem_cons.mp (mem_setPair hq).2 with hq | hq
      · exact hq ▸ hv
      · obtain ⟨p, hp, hpq⟩ := List.mem_map.mp hq
        exact hpq ▸ hvalue p hp

/-- What is read with some fuel is a piece: a value, the items of a list, and the pairs of a map
together with those that were read before. -/
structure ReadsPieces (n : Nat) : Prop where
  value : ∀ {cs rest v}, readValue n cs = .ok (v, rest) → Spans cs rest (BareKeys v)
  items : ∀ {cs rest xs}, readItems n cs = .ok (xs, rest) → Spans cs rest (BareKeys (.list xs))
  pairs : ∀ {done cs rest ps}, readPairs n done cs = .ok (ps, rest) →
    Spans cs rest (BareKeys (.map done) → BareKeys (.map ps))

theorem ReadsPieces.zero : ReadsPieces 0 := ⟨nofun, nofun, nofun⟩

theorem ReadsPieces.value_succ {n : Nat} (ih : ReadsPieces n) {cs rest : List Char} {v : Data}
    (h : readValue (n + 1) cs = .ok (v, rest)) : Spans cs rest (BareKeys v) := by
  rw [readValue.eq_def] at h
  dsimp only at h
  split at h
  · obtain ⟨p, hp, h⟩ := bind_eq_ok.mp h
    cases h
    exact (spans_string hp).imp fun _ => .single nofun nofun
  · have hopen := Bares.mark (c := '[') rfl
    split at h
    · next hempty =>
      cases h
      exact ((hopen _).trans (.skipMark hempty rfl)).spans (.list (List.forall_mem_nil _))
    · obtain ⟨p, hp, h⟩ := bind_eq_ok.mp h
      cases h
      exact (ih.items hp).after ((hopen _).trans (.skip _))
  · have hopen := Bares.mark (c := '\x7b') rfl
    have hnil : BareKeys (.map []) := .map (List.forall_mem_nil _) (List.forall_mem_nil _)
    split at h
    · next hempty =>
      cases h
      exact ((hopen _).trans (.skipMark hempty rfl)).spans hnil
    · obtain ⟨p, hp, h⟩ := bind_eq_ok.mp h
      cases h
      exact ((ih.pairs hp).imp fun hkeys => hkeys hnil).after ((hopen _).trans (.skip _))
  · split at h
    · next hword =>
      cases h
      exact (Bares.literal hword).spans (bareKeys_literal hword)
    · exact (Bares.number h).spans (bareKeys_number h)

theorem ReadsPieces.items_succ {n : Nat} (ih : ReadsPieces n) {cs rest : List Char} {xs : List Data}
    (h : readItems (n + 1) cs = .ok (xs, rest)) : Spans cs rest (BareKeys (.list xs)) := by
  rw [readItems] at h
  obtain ⟨p, hp, h⟩ := bind_eq_ok.mp h
  have hfirst := ih.value hp
  dsimp only at h
  split at h
  · next hclose =>
    cases h
    exact (hfirst.before (.skipMark hclose rfl)).imp fun hx => .list
      (List.forall_mem_singleton.mpr hx)
  · next hcomma =>
    obtain ⟨q, hq, h⟩ := bind_eq_ok.mp h
    cases h
    have hgap := (Bares.skipMark hcomma rfl).trans (.skip _)
    refine ((hfirst.before hgap).trans (ih.items hq)).imp fun hboth => ?_
    obtain ⟨hx, hxs⟩ := hboth
    cases hxs with
    | single hlist _ => exact absurd rfl (hlist _)
    | list hxs => exact .list (List.forall_mem_cons.mpr ⟨hx, hxs⟩)
  · cases h

theorem ReadsPieces.pairs_succ {n : Nat} (ih : ReadsPieces n) {done ps : List (Data × Data)}
    {cs rest : List Char} (h : readPairs (n + 1) done cs = .ok (ps, rest)) :
    Spans cs rest (BareKeys (.map done) → BareKeys (.map ps)) := by
  rw [readPairs.eq_def] at h
  dsimp only at h
  split at h
  · obtain ⟨k, hk, h⟩ := bind_eq_ok.mp h
    have hkey := spans_string hk
    split at h
    · next hcolon =>
      obtain ⟨q, hq, h⟩ := bind_eq_ok.mp h
      have hgap := (Bares.skipMark hcolon rfl).trans (.skip _)
      have hpair := ((hkey.before hgap).trans (ih.value hq)).imp
        fun hboth (hdone : BareKeys (.map done)) => hdone.setPair hboth.1 hboth.2
      split at h
      · next hclose =>
        cases h
        exact hpair.before (.skipMark hclose rfl)
      · next hcomma =>
        have hgap := (Bares.skipMark hcomma rfl).trans (.skip _)
        exact ((hpair.before hgap).trans (ih.pairs h)).imp fun hboth hdone => hboth.2
          (hboth.1 hdone)
      · cases h
    · cases h
  · cases h

theorem readsPieces (n : Nat) : ReadsPieces n := by
  induction n with
  | zero => exact .zero
  | succ n ih => exact ⟨ih.value_succ, ih.items_succ, ih.pairs_succ⟩

theorem exists_of_parse {s : String} {v : Data} (h : parse s = .ok v) :
    ∃ n cs rest, Bares s.toList cs ∧ readValue n cs = .ok (v, rest) ∧ Bares rest [] := by
  obtain ⟨p, hp, h⟩ := bind_eq_ok.mp h
  dsimp only at h
  split at h
  · next hend =>
    cases h
    exact ⟨_, _, p.2, .skip _, hp, List.isEmpty_iff.mp hend ▸ .skip p.2⟩
  · cases h

/-- A document is read from outside of strings to there.  If it is a piece of another document that
starts inside a string there, it has bare keys only. -/
theorem piece_of_parse {s : String} {v : Data} (h : parse s = .ok v) :
    Piece s.toList (BareKeys v) := by
  obtain ⟨n, cs, rest, hstart, hread, hend⟩ := exists_of_parse h
  obtain ⟨p, hp, hpiece⟩ := (((readsPieces n).value hread).after hstart).before hend
  rw [List.append_nil] at hp
  exact hp ▸ hpiece

theorem readItems_ne_nil {n : Nat} {cs rest : List Char} : readItems n cs ≠ .ok ([], rest) := by
  intro h
  cases n with
  | zero => cases h
  | succ n =>
    rw [readItems] at h
    obtain ⟨p, -, h⟩ := bind_eq_ok.mp h
    dsimp only at h
    split at h
    · cases h
    · obtain ⟨q, -, h⟩ := bind_eq_ok.mp h
      cases h
    · cases h

theorem Bares.emptyList {n : Nat} {cs rest : List Char}
    (h : readValue n cs = .ok (.list [], rest)) : Bares cs rest := by
  cases n with
  | zero => cases h
  | succ n =>
    rw [readValue.eq_def] at h
    dsimp only at h
    split at h
    · obtain ⟨p, -, h⟩ := bind_eq_ok.mp h
      cases h
    · split at h
      · next hempty =>
        cases h
        exact (mark rfl _).trans (.skipMark hempty rfl)
      · obtain ⟨⟨xs, rest'⟩, hitems, h⟩ := bind_eq_ok.mp h
        cases h
        exact absurd hitems readItems_ne_nil
    · split at h
      · cases h
      · obtain ⟨p, -, h⟩ := bind_eq_ok.mp h
        cases h
    · split at h
      · next hword =>
        cases h
        exact .literal hword
      · exact .number h

theorem bare_of_parse_nil {s : String} (h : parse s = .ok (.list [])) :
    ∀ c ∈ s.toList, isBare c = true := by
  obtain ⟨n, cs, rest, hstart, hread, hend⟩ := exists_of_parse h
  obtain ⟨p, hp, hbare⟩ := (hstart.trans (.emptyList hread)).trans hend
  rw [List.append_nil] at hp
  exact hp ▸ hbare

end Apidoc.Json
