import Apidoc.Describe.Agent
import Apidoc.Proofs.Text.Words
import Mathlib.Data.List.Forall2

/-!
# Replies to a batch

When a reply is taken, when the components are asked for one by one instead, and when neither is
done.

* `Agent.Item`                      a map with an id and a description, of which the id can be a
                                    key;
* `Agent.Lacking`, `Agent.Stray`    what else an item can be: a map without a field, or something
                                    that cannot be used;
* `Agent.Stops`                     items of which the first that is no good one is of some kind;
* `Agent.readBatch_described_iff`   a reply is taken if all it lists are good items;
* `Agent.readBatch_unreadable_iff`  components are asked for one by one if there is no content, no
                                    document, or a list that stops at an item without a field;
* `Agent.readBatch_fault_iff`       neither is done if a number is too long, if there is no list, or
                                    if the list stops at something that cannot be used;
* `Agent.IsAnswer`                  texts that are a list of ids and descriptions, without anything
                                    around them.
-/

namespace Apidoc.Agent

/-! ## items -/

/-- a map with an id and a description -/
def HoldsFields (x : Data) (p : Data × Data) : Prop :=
  ∃ fields, x = .map fields ∧ Ordered.get? fields (.str "id") = some p.1 ∧
    Ordered.get? fields (.str "description") = some p.2

/-- a map without an id or without a description -/
def Lacking (x : Data) : Prop :=
  ∃ fields, x = .map fields ∧
    (Ordered.get? fields (.str "id") = none ∨ Ordered.get? fields (.str "description") = none)

/-- a map with an id that can be a key and a description -/
def Item (x : Data) (p : Data × Data) : Prop := HoldsFields x p ∧ Yaml.isKey p.1 = true

/-- no map, or one with an id that cannot be a key -/
def Stray (x : Data) : Prop :=
  (∀ fields, x ≠ .map fields) ∨ ∃ p, HoldsFields x p ∧ Yaml.isKey p.1 = false

theorem itemOf_eq_pair {x : Data} {p : Data × Data} :
    itemOf x = some (some p) ↔ HoldsFields x p := by
  constructor
  · intro h
    unfold itemOf at h
    split at h
    · split at h
      · next hid htext =>
        cases h
        exact ⟨_, rfl, hid, htext⟩
      · cases h
    · cases h
  · rintro ⟨fields, rfl, hid, htext⟩
    rw [itemOf, hid, htext]

theorem itemOf_eq_lacking {x : Data} : itemOf x = some none ↔ Lacking x := by
  constructor
  · intro h
    unfold itemOf at h
    split at h
    · next fields =>
      refine ⟨fields, rfl, ?_⟩
      cases hid : Ordered.get? fields (.str "id") with
      | none => exact .inl rfl
      | some id =>
        cases htext : Ordered.get? fields (.str "description") with
        | none => exact .inr rfl
        | some text =>
          rw [hid, htext] at h
          cases h
    · cases h
  · rintro ⟨fields, rfl, hid | htext⟩
    · rw [itemOf, hid]
    · rw [itemOf, htext]
      cases Ordered.get? fields (.str "id") <;> rfl

theorem itemOf_eq_none {x : Data} : itemOf x = none ↔ ∀ fields, x ≠ .map fields := by
  constructor
  · rintro h fields rfl
    unfold itemOf at h
    dsimp only at h
    split at h
    · cases h
    · cases h
  · intro h
    unfold itemOf
    split
    · next fields => exact absurd rfl (h fields)
    · rfl

theorem item_cases (x : Data) : (∃ p, Item x p) ∨ Lacking x ∨ Stray x := by
  cases h : itemOf x with
  | none => exact .inr (.inr (.inl (itemOf_eq_none.mp h)))
  | some o =>
    cases o with
    | none => exact .inr (.inl (itemOf_eq_lacking.mp h))
    | some p =>
      have hfields := itemOf_eq_pair.mp h
      cases hkey : Yaml.isKey p.1 with
      | true => exact .inl ⟨p, hfields, hkey⟩
      | false => exact .inr (.inr (.inr ⟨p, hfields, hkey⟩))

theorem readItems_item {x : Data} {p : Data × Data} (h : Item x p) (xs : List Data)
    (done : Descriptions) : readItems (x :: xs) done = readItems xs (Ordered.set done p.1 p.2) := by
  rw [readItems, itemOf_eq_pair.mpr h.1]
  exact if_pos h.2

theorem readItems_lacking {x : Data} (h : Lacking x) (xs : List Data) (done : Descriptions) :
    readItems (x :: xs) done = .unreadable := by
  rw [readItems, itemOf_eq_lacking.mpr h]

theorem readItems_stray {x : Data} (h : Stray x) (xs : List Data) (done : Descriptions) :
    readItems (x :: xs) done = .fault .wrongKind := by
  rcases h with h | ⟨p, hfields, hkey⟩
  · rw [readItems, itemOf_eq_none.mpr h]
  · rw [readItems, itemOf_eq_pair.mpr hfields]
    exact if_neg (Bool.eq_false_iff.mp hkey)

theorem Item.unique {x : Data} {p q : Data × Data} (hp : Item x p) (hq : Item x q) : p = q := by
  cases (itemOf_eq_pair.mpr hp.1).symm.trans (itemOf_eq_pair.mpr hq.1)
  rfl

theorem Item.not_lacking {x : Data} {p : Data × Data} (h : Item x p) : ¬ Lacking x := by
  intro hlacking
  cases (itemOf_eq_pair.mpr h.1).symm.trans (itemOf_eq_lacking.mpr hlacking)

theorem Item.not_stray {x : Data} {p : Data × Data} (h : Item x p) : ¬ Stray x := by
  rintro (hmap | ⟨q, hq, hkey⟩)
  · cases (itemOf_eq_pair.mpr h.1).symm.trans (itemOf_eq_none.mpr hmap)
  · cases (itemOf_eq_pair.mpr h.1).symm.trans (itemOf_eq_pair.mpr hq)
    exact Bool.eq_false_iff.mp hkey h.2

theorem Lacking.not_stray {x : Data} (h : Lacking x) : ¬ Stray x := by
  intro hstray
  cases (readItems_lacking h [] []).symm.trans (readItems_stray hstray [] [])

/-! ## lists of items -/

/-- items of which the first that is no good one is of some kind -/
def Stops (P : Data → Prop) (xs : List Data) : Prop :=
  ∃ before x after, xs = before ++ x :: after ∧ (∀ y ∈ before, ∃ p, Item y p) ∧ P x

theorem not_stops_nil {P : Data → Prop} : ¬ Stops P [] := by
  rintro ⟨before, x, after, h, -, -⟩
  cases before <;> cases h

theorem stops_cons {P : Data → Prop} {x : Data} {xs : List Data} :
    Stops P (x :: xs) ↔ P x ∨ (∃ p, Item x p) ∧ Stops P xs := by
  constructor
  · rintro ⟨before, y, after, h, hbefore, hy⟩
    cases before with
    | nil =>
      cases h
      exact .inl hy
    | cons z before =>
      cases h
      rw [List.forall_mem_cons] at hbefore
      exact .inr ⟨hbefore.1, before, y, after, rfl, hbefore.2, hy⟩
  · rintro (hx | ⟨hx, before, y, after, rfl, hbefore, hy⟩)
    · exact ⟨[], x, xs, rfl, List.forall_mem_nil _, hx⟩
    · exact ⟨x :: before, y, after, rfl, List.forall_mem_cons.mpr ⟨hx, hbefore⟩, hy⟩

theorem stops_cons_item {P : Data → Prop} {x : Data} {p : Data × Data} (hp : Item x p) (hx : ¬ P x)
    {xs : List Data} : Stops P (x :: xs) ↔ Stops P xs := by
  rw [stops_cons]
  exact ⟨fun h => (h.resolve_left hx).2, fun h => .inr ⟨⟨p, hp⟩, h⟩⟩

/-- The map that is read has the ids of the items; of those that come again the last counts. -/
theorem readItems_described_iff {xs : List Data} {done ds : Descriptions} :
    readItems xs done = .described ds ↔ ∃ ps, List.Forall₂ Item xs ps ∧
    ds = Ordered.overlay done ps := by
  induction xs generalizing done with
  | nil =>
    constructor
    · intro h
      cases h
      exact ⟨[], .nil, rfl⟩
    · rintro ⟨ps, hps, rfl⟩
      cases hps
      rfl
  | cons x xs ih =>
    rcases item_cases x with ⟨p, hp⟩ | hx | hx
    · rw [readItems_item hp, ih]
      constructor
      · rintro ⟨ps, hps, rfl⟩
        exact ⟨p :: ps, .cons hp hps, rfl⟩
      · rintro ⟨qs, hqs, rfl⟩
        cases hqs with
        | cons hq hqs =>
          cases hp.unique hq
          exact ⟨_, hqs, rfl⟩
    · rw [readItems_lacking hx]
      refine iff_of_false nofun ?_
      rintro ⟨ps, hps, -⟩
      cases hps with
      | cons hp _ => exact hp.not_lacking hx
    · rw [readItems_stray hx]
      refine iff_of_false nofun ?_
      rintro ⟨ps, hps, -⟩
      cases hps with
      | cons hp _ => exact hp.not_stray hx

theorem readItems_unreadable_iff {xs : List Data} {done : Descriptions} :
    readItems xs done = .unreadable ↔ Stops Lacking xs := by
  induction xs generalizing done with
  | nil => exact iff_of_false nofun not_stops_nil
  | cons x xs ih =>
    rcases item_cases x with ⟨p, hp⟩ | hx | hx
    · rw [readItems_item hp, ih, stops_cons_item hp hp.not_lacking]
    · rw [readItems_lacking hx]
      exact iff_of_true rfl (stops_cons.mpr (.inl hx))
    · rw [readItems_stray hx]
      refine iff_of_false nofun fun h => ?_
      rcases stops_cons.mp h with h | ⟨⟨p, hp⟩, -⟩
      · exact h.not_stray hx
      · exact hp.not_stray hx

theorem readItems_fault_iff {xs : List Data} {done : Descriptions} :
    (∃ f, readItems xs done = .fault f) ↔ Stops Stray xs := by
  induction xs generalizing done with
  | nil => exact iff_of_false nofun not_stops_nil
  | cons x xs ih =>
    rcases item_cases x with ⟨p, hp⟩ | hx | hx
    · rw [readItems_item hp, ih, stops_cons_item hp hp.not_stray]
    · rw [readItems_lacking hx]
      refine iff_of_false nofun fun h => ?_
      rcases stops_cons.mp h with h | ⟨⟨p, hp⟩, -⟩
      · exact hx.not_stray h
      · exact hp.not_lacking hx
    · rw [readItems_stray hx]
      exact iff_of_true ⟨_, rfl⟩ (stops_cons.mpr (.inl hx))

/-! ## replies -/

/-- a reply in which good items are listed; an empty text or map in it lists none -/
def Lists (reply : Reply) (ps : List (Data × Data)) : Prop :=
  ∃ text v xs, reply = some text ∧ replyData text = .ok v ∧ itemsOf v = .ok xs ∧
    List.Forall₂ Item xs ps

/-- a reply without content, without a document, or with a list that stops at an item without a
field -/
def Unreadable (reply : Reply) : Prop :=
  ∀ text, reply = some text →
    replyData text = .error .malformed ∨ ∃ xs, replyData text = .ok (.list xs) ∧ Stops Lacking xs

/-- a reply with a number that is too long, with a document that is no list, or with a list that
stops at something that cannot be used -/
def Unusable (reply : Reply) : Prop :=
  ∃ text, reply = some text ∧
    ((∃ n, replyData text = .error (.longInteger n)) ∨
      ∃ v, replyData text = .ok v ∧ ∀ xs, itemsOf v = .ok xs → Stops Stray xs)

theorem readBatch_described_iff {reply : Reply} {ds : Descriptions} :
    readBatch reply = .described ds ↔ ∃ ps, Lists reply ps ∧ ds = Ordered.ofList ps := by
  constructor
  · intro h
    unfold readBatch at h
    split at h
    · cases h
    · next text =>
      split at h
      · cases h
      · cases h
      · next v hv =>
        split at h
        · cases h
        · next xs hxs =>
          obtain ⟨ps, hps, hds⟩ := readItems_described_iff.mp h
          exact ⟨ps, ⟨text, v, xs, rfl, hv, hxs, hps⟩, hds⟩
  · rintro ⟨ps, ⟨text, v, xs, rfl, hv, hxs, hps⟩, rfl⟩
    simp only [readBatch, hv, hxs]
    exact readItems_described_iff.mpr ⟨ps, hps, rfl⟩

theorem itemsOf_eq_ok {v : Data} {xs : List Data} (h : itemsOf v = .ok xs) :
    v = .list xs ∨ xs = [] ∧ (v = .str "" ∨ v = .map []) := by
  unfold itemsOf at h
  split at h
  · cases h
    exact .inl rfl
  · cases h
    exact .inr ⟨rfl, .inr rfl⟩
  · cases h
    exact .inr ⟨rfl, .inl rfl⟩
  · cases h

theorem eq_list_of_stops {P : Data → Prop} {v : Data} {xs : List Data} (h : itemsOf v = .ok xs)
    (hstops : Stops P xs) : v = .list xs := by
  refine (itemsOf_eq_ok h).resolve_right ?_
  rintro ⟨rfl, -⟩
  exact not_stops_nil hstops

theorem readBatch_unreadable_iff {reply : Reply} :
    readBatch reply = .unreadable ↔ Unreadable reply := by
  cases reply with
  | none => exact iff_of_true rfl nofun
  | some text =>
    constructor
    · intro h text' htext'
      cases htext'
      rw [readBatch] at h
      split at h
      · next hv => exact .inl hv
      · cases h
      · next v hv =>
        split at h
        · cases h
        · next xs hxs =>
          have hstops := readItems_unreadable_iff.mp h
          exact .inr ⟨xs, hv.trans (congrArg _ (eq_list_of_stops hxs hstops)), hstops⟩
    · intro h
      rw [readBatch]
      rcases h text rfl with hv | ⟨xs, hv, hstops⟩
      · rw [hv]
      · rw [hv]
        exact readItems_unreadable_iff.mpr hstops

theorem readBatch_fault_iff {reply : Reply} :
    (∃ f, readBatch reply = .fault f) ↔ Unusable reply := by
  cases reply with
  | none => exact iff_of_false nofun nofun
  | some text =>
    constructor
    · rintro ⟨f, h⟩
      refine ⟨text, rfl, ?_⟩
      rw [readBatch] at h
      split at h
      · cases h
      · next g hne hv =>
        cases g with
        | malformed => exact absurd rfl hne
        | longInteger n => exact .inl ⟨n, hv⟩
      · next v hv =>
        refine .inr ⟨v, hv, fun xs hxs => ?_⟩
        rw [hxs] at h
        exact readItems_fault_iff.mp ⟨f, h⟩
    · rintro ⟨_, htext, ⟨n, hv⟩ | ⟨v, hv, hstops⟩⟩
      · cases htext
        exact ⟨_, by rw [readBatch, hv]⟩
      · cases htext
        rw [readBatch, hv]
        dsimp only
        cases hxs : itemsOf v with
        | error f => exact ⟨f, rfl⟩
        | ok xs => exact readItems_fault_iff.mpr (hstops xs hxs)

/-- whether the components are asked for one by one after a reply -/
def isUnreadable (reply : Reply) : Bool :=
  match readBatch reply with
  | .unreadable => true
  | _ => false

theorem isUnreadable_iff {reply : Reply} : isUnreadable reply = true ↔ Unreadable reply := by
  rw [← readBatch_unreadable_iff, isUnreadable]
  split
  · next h => exact iff_of_true rfl h
  · next h => exact iff_of_false nofun h

instance (reply : Reply) : Decidable (Unreadable reply) := decidable_of_iff _ isUnreadable_iff

/-! ## fences -/

theorem fence_infix_jsonFence : fence <:+: jsonFence := ⟨[], "json".toList, rfl⟩

theorem unfence_eq_self {cs : List Char} (h : ¬ fence <:+: cs) : unfence cs = cs := by
  have hjson : ¬ jsonFence <:+: cs := fun hcs => h (fence_infix_jsonFence.trans hcs)
  rw [unfence, Text.cutAt_eq_none.mpr hjson, Text.cutAt_eq_none.mpr h]

/-! ## plain answers -/

/-- a text that, stripped, is a list of maps with these texts as ids and descriptions -/
def IsAnswer (text : String) (ps : List (String × String)) : Prop :=
  ∃ xs, Json.parse (Text.trimString text) = .ok (.list xs) ∧
    List.Forall₂ (fun x p => HoldsFields x (.str p.1, .str p.2)) xs ps

def textsOf (x : Data) : Option (String × String) :=
  match itemOf x with
  | some (some (.str id, .str text)) => some (id, text)
  | _ => none

def answerOf? (text : String) : Option (List (String × String)) :=
  match Json.parse (Text.trimString text) with
  | .ok (.list xs) => xs.mapM textsOf
  | _ => none

theorem holdsFields_of_textsOf {x : Data} {p : String × String} (h : textsOf x = some p) :
    HoldsFields x (.str p.1, .str p.2) := by
  unfold textsOf at h
  split at h
  · next hitem =>
    cases h
    exact itemOf_eq_pair.mp hitem
  · cases h

theorem holdsFields_of_mapM {xs : List Data} {ps : List (String × String)}
    (h : xs.mapM textsOf = some ps) :
    List.Forall₂ (fun x p => HoldsFields x (.str p.1, .str p.2)) xs ps := by
  induction xs generalizing ps with
  | nil =>
    cases h
    exact .nil
  | cons x xs ih =>
    rw [List.mapM_cons] at h
    obtain ⟨p, hp, h⟩ := Option.bind_eq_some_iff.mp h
    obtain ⟨qs, hqs, h⟩ := Option.bind_eq_some_iff.mp h
    cases h
    exact .cons (holdsFields_of_textsOf hp) (ih hqs)

theorem isAnswer_of_answerOf? {text : String} {ps : List (String × String)}
    (h : answerOf? text = some ps) : IsAnswer text ps := by
  unfold answerOf? at h
  split at h
  · next xs hparse => exact ⟨xs, hparse, holdsFields_of_mapM h⟩
  · cases h

def answered (ps : List (String × String)) : Descriptions :=
  Ordered.ofList (ps.map fun p => (.str p.1, .str p.2))

theorem lists_answer {text : String} {ps : List (String × String)} (h : IsAnswer text ps)
    (hfence : ¬ fence <:+: Text.trim text.toList) :
    Lists (some text) (ps.map fun p => (.str p.1, .str p.2)) := by
  obtain ⟨xs, hparse, hxs⟩ := h
  refine ⟨text, .list xs, xs, rfl, ?_, rfl, List.forall₂_map_right_iff.mpr
    (hxs.imp fun x p hp => ⟨hp, rfl⟩)⟩
  rw [replyData, unfence_eq_self hfence]
  exact hparse

end Apidoc.Agent
