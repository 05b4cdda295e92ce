import Apidoc.Component.Reader
import Apidoc.Proofs.Result
import Mathlib.Data.List.Forall2

/-!
# Declared parameters and their defaults

A parameter list is written entry by entry, each parameter with its own default.  A signature holds
the parameters by group and the defaults of all positional ones in one list, and from that list the
defaults that are shown are taken back by position.

* `declaredIn`                       the parameters of a written list, in its order;
* `Signature.declared`               the parameters of a signature, the defaults given to the last
                                     positional ones;
* `declared_signatureOf`             both are the same;
* `pairDefaults_eq`                  the defaults found by position are those that belong to the
                                     parameters;
* `shownParameters_eq`               what is shown of a signature: all but positional-only
                                     parameters and receivers;
* `parameters_complete_iff`          when every parameter is shown;
* `defaults_paired`                  every parameter that is shown has its own default.
-/

namespace Apidoc

open Syntax

inductive ParameterKind where
  | positionalOnly | positional | variadic | keywordOnly | keywords
  deriving DecidableEq

def ParameterKind.stars : ParameterKind → String
  | .variadic => "*"
  | .keywords => "**"
  | _ => ""

structure Declared where
  kind : ParameterKind
  parameter : Parameter
  default : Option Expr

namespace Declared

def of (kind : ParameterKind) (p : Parameter × Option Expr) : Declared := ⟨kind, p.1, p.2⟩

def name (d : Declared) : String := d.kind.stars ++ d.parameter.name

/-- a positional parameter through which an object or its class comes in -/
def isReceiver (d : Declared) : Bool :=
  (d.kind == .positionalOnly || d.kind == .positional) && Apidoc.isReceiver d.parameter

def isReported (d : Declared) : Bool := d.kind != .positionalOnly && !d.isReceiver

/-- the parameter with its stars and its default, as it is handed on to be shown -/
def entry (d : Declared) : String × Parameter × Option Expr :=
  (d.kind.stars, d.parameter, d.default)

end Declared

/-! ## written lists -/

def Syntax.ParamItem.isSlash : ParamItem → Bool
  | .slash => true
  | _ => false

/-- the kind of a parameter without stars that is followed by the rest: before a slash it is
positional only, after a star it is named by keyword only -/
def plainKind (starred : Bool) (rest : List ParamItem) : ParameterKind :=
  if starred then .keywordOnly else if rest.any
    ParamItem.isSlash then .positionalOnly else .positional

def declaredIn (starred : Bool) : List ParamItem → List Declared
  | [] => []
  | .plain p d :: rest => ⟨plainKind starred rest, p, d⟩ :: declaredIn starred rest
  | .slash :: rest => declaredIn starred rest
  | .star v :: rest => v.toList.map (⟨.variadic, ·, none⟩) ++ declaredIn true rest
  | .doubleStar p :: rest => ⟨.keywords, p, none⟩ :: declaredIn starred rest

theorem any_isSlash (items : List ParamItem) :
    items.any ParamItem.isSlash = (plainItems items).2.any ParamItem.isSlash := by
  fun_induction plainItems items with
  | case1 p d rest ps r heq ih =>
    rw [heq] at ih
    exact ih
  | case2 rest => rfl

theorem declaredIn_plainItems (starred : Bool) (items : List ParamItem) :
    declaredIn starred items =
      (plainItems items).1.map (Declared.of (plainKind starred (plainItems items).2)) ++
        declaredIn starred (plainItems items).2 := by
  fun_induction plainItems items with
  | case1 p d rest ps r heq ih =>
    have hkind : plainKind starred rest = plainKind starred r := by
      rw [plainKind, any_isSlash, heq, plainKind]
    rw [heq] at ih
    rw [declaredIn, ih, hkind]
    rfl
  | case2 rest => rfl

/-! ## signatures -/

/-- the defaults of the positional parameters in turn: those at the end have one -/
def Syntax.Signature.bound (s : Signature) : List (Option Expr) :=
  List.replicate (s.positionalOnly.length + s.positional.length - s.defaults.length) none ++
    s.defaults.map some

def Syntax.Signature.declared (s : Signature) : List Declared :=
  (s.positionalOnly.zip s.bound).map (.of .positionalOnly) ++
    (s.positional.zip (s.bound.drop s.positionalOnly.length)).map (.of .positional) ++
    s.variadic.toList.map (⟨.variadic, ·, none⟩) ++ s.keywordOnly.map (.of .keywordOnly) ++
    s.keywords.toList.map (⟨.keywords, ·, none⟩)

theorem bound_of_inOrder {ps : List (Parameter × Option Expr)}
    (h : defaultsInOrder false ps = true) :
    ps.map (·.2) = List.replicate (ps.length - (ps.filterMap (·.2)).length) none ++
      (ps.filterMap (·.2)).map some := by
  -- once a default has come, every later parameter has one
  have hbegun (ps : List (Parameter × Option Expr)) (h : defaultsInOrder true ps = true) :
      ps.map (·.2) = (ps.filterMap (·.2)).map some := by
    induction ps with
    | nil => rfl
    | cons p ps ih =>
      obtain ⟨p, d⟩ := p
      cases d with
      | none => simp [defaultsInOrder] at h
      | some e =>
        have hrest : defaultsInOrder true ps = true := by simpa [defaultsInOrder] using h
        simpa using ih hrest
  induction ps with
  | nil => rfl
  | cons p ps ih =>
    obtain ⟨p, d⟩ := p
    cases d with
    | none =>
      have hrest := ih (by simpa [defaultsInOrder] using h)
      have hlength := List.length_filterMap_le (fun p : Parameter × Option Expr => p.2) ps
      rw [List.map_cons, hrest, List.filterMap_cons_none rfl, List.length_cons,
        Nat.succ_sub hlength, List.replicate_succ]
      rfl
    | some e =>
      have hrest := hbegun ps (by simpa [defaultsInOrder] using h)
      have hlength := congrArg List.length hrest
      simp only [List.length_map] at hlength
      have hkept : ((p, some e) :: ps).filterMap (·.2) = e :: ps.filterMap (·.2) := rfl
      rw [List.map_cons, hrest, hkept, List.length_cons, List.length_cons, ← hlength, Nat.sub_self]
      rfl

/-- the groups of a signature, where each positional parameter still has its default beside it -/
theorem declared_grouped {only ordinary keys : List (Parameter × Option Expr)}
    {v w : Option Parameter} (h : defaultsInOrder false (only ++ ordinary) = true) :
    (Signature.mk (only.map (·.1)) (ordinary.map (·.1))
      ((only ++ ordinary).filterMap (·.2)) v keys w).declared =
      only.map (.of .positionalOnly) ++ ordinary.map (.of .positional) ++
        v.toList.map (⟨.variadic, ·, none⟩) ++
        keys.map (.of .keywordOnly) ++ w.toList.map (⟨.keywords, ·, none⟩) := by
  have hbound : (Signature.mk (only.map (·.1)) (ordinary.map (·.1))
    ((only ++ ordinary).filterMap (·.2)) v keys
      w).bound = only.map (·.2) ++ ordinary.map (·.2) := by
    rw [← List.map_append, bound_of_inOrder h]
    simp only [Signature.bound, List.length_map, List.length_append]
  have hzip (ps : List (Parameter × Option Expr)) (rest : List (Option Expr)) :
      (ps.map (·.1)).zip (ps.map (·.2) ++ rest) = ps := by
    induction ps with
    | nil => rfl
    | cons p ps ih => exact congrArg (p :: ·) ih
  have hordinary := hzip ordinary []
  rw [List.append_nil] at hordinary
  rw [Signature.declared, hbound]
  simp only [hzip, List.length_map]
  rw [List.drop_left' (List.length_map _), hordinary]

theorem declared_signatureOf {items : List ParamItem} {s : Signature}
    (h : signatureOf items = some s) :
    s.defaults.length ≤ s.positionalOnly.length + s.positional.length ∧
    s.declared = declaredIn false items := by
  unfold signatureOf at h
  dsimp only at h
  split at h
  · cases h
  next only ordinary rest hsplit =>
  split at h
  · cases h
  next horder =>
  have horder : defaultsInOrder false (only ++ ordinary) = true := by simpa using horder
  -- the entries after the positional ones
  obtain ⟨v, keys, w, rfl, hslash, htail⟩ : ∃ v keys w,
      Signature.mk (only.map (·.1)) (ordinary.map (·.1))
      ((only ++ ordinary).filterMap (·.2)) v keys w = s ∧
      rest.any ParamItem.isSlash = false ∧ declaredIn false rest =
        v.toList.map (⟨.variadic, ·, none⟩) ++ keys.map (.of .keywordOnly) ++
          w.toList.map (⟨.keywords, ·, none⟩) := by
    split at h
    · exact ⟨none, [], none, Option.some.inj h, rfl, rfl⟩
    · exact ⟨none, [], some _, Option.some.inj h, rfl, rfl⟩
    · next v named =>
      have hslash : (ParamItem.star v :: named).any ParamItem.isSlash =
        (plainItems named).2.any ParamItem.isSlash :=
        any_isSlash named
      rw [hslash, declaredIn, declaredIn_plainItems]
      split at h
      · cases h
      split at h
      · next hend =>
        rw [hend]
        exact ⟨v, (plainItems named).1, none, Option.some.inj h, rfl,
          (List.append_assoc _ _ _).symm⟩
      · next p hend =>
        rw [hend]
        exact ⟨v, (plainItems named).1, some p, Option.some.inj h, rfl,
          (List.append_assoc _ _ _).symm⟩
      · cases h
    · cases h
  have hlength :=
    List.length_filterMap_le (fun p : Parameter × Option Expr => p.2) (only ++ ordinary)
  refine ⟨by simpa using hlength, ?_⟩
  rw [declared_grouped horder, declaredIn_plainItems false items]
  split at hsplit
  · next after hbefore =>
    split at hsplit
    · cases hsplit
    · obtain ⟨rfl, rfl, rfl⟩ : (plainItems items).1 = only ∧ (plainItems after).1 = ordinary ∧
          (plainItems after).2 = rest := by
            simpa only [Option.some.injEq, Prod.mk.injEq] using hsplit
      rw [hbefore, declaredIn, declaredIn_plainItems false after, htail]
      simp [plainKind, ParamItem.isSlash, hslash]
  · obtain ⟨rfl, rfl, rfl⟩ : [] = only ∧ (plainItems items).1 = ordinary ∧
        (plainItems items).2 = rest := by
      simpa only [Option.some.injEq, Prod.mk.injEq] using hsplit
    rw [htail]
    simp [plainKind, hslash]

/-! ## what is shown -/

/-- The defaults found by position are those that belong to the parameters, also where there are
more of them than parameters of the group: the first ones then belong to positional-only parameters.
-/
theorem pairDefaults_eq {k : Nat} {ps : List Parameter} {ds : List Expr}
    (h : ds.length ≤ k + ps.length) :
    pairDefaults ps ds = ps.zip ((List.replicate (k + ps.length - ds.length) none ++
      ds.map some).drop k) := by
  refine List.ext_getElem ?_ fun i hi hi' => ?_
  · simp only [pairDefaults, List.length_map, List.length_zipIdx, List.length_zip, List.length_drop,
      List.length_append, List.length_replicate]
    omega
  · have hi : i < ps.length := by simpa [pairDefaults] using hi
    simp only [pairDefaults, List.getElem_map, List.getElem_zipIdx, List.getElem_zip,
      List.getElem_drop, Nat.zero_add]
    by_cases hlast : ps.length ≤ i + ds.length
    · have hplace : k + i - (k + ps.length - ds.length) = i + ds.length - ps.length := by omega
      rw [if_pos hlast, List.getElem_append_right (by simp; omega)]
      simp only [List.length_replicate, hplace, List.getElem_map]
      rw [List.getElem?_eq_getElem]
    · rw [if_neg hlast, List.getElem_append_left (by simp; omega), List.getElem_replicate]

theorem isSome_pairDefaults {ps : List Parameter} {ds : List Expr} {i : Nat} {p : Parameter}
    {d : Option Expr} (h : (pairDefaults ps ds)[i]? = some (p, d)) :
    d.isSome ↔ ps.length ≤ i + ds.length := by
  rw [pairDefaults, List.getElem?_map, List.getElem?_zipIdx, Option.map_map] at h
  obtain ⟨q, hq, hpair⟩ := Option.map_eq_some_iff.1 h
  have hlt : i < ps.length := (List.getElem?_eq_some_iff.1 hq).1
  have hd : (if ps.length ≤ 0 + i + ds.length then ds[0 + i + ds.length - ps.length]? else none) =
    d :=
    congrArg Prod.snd hpair
  rw [← hd, Nat.zero_add]
  split
  · next hlast =>
    rw [List.getElem?_eq_getElem (by omega)]
    exact iff_of_true rfl hlast
  · next hlast => exact iff_of_false Bool.false_ne_true hlast

theorem shownParameters_eq {s : Signature}
    (h : s.defaults.length ≤ s.positionalOnly.length + s.positional.length) :
    shownParameters s = (s.declared.filter Declared.isReported).map Declared.entry := by
  have honly : ((s.positionalOnly.zip s.bound).map (.of .positionalOnly)).filter
      Declared.isReported = [] := by
    rw [List.filter_map]
    exact congrArg (List.map _) (List.filter_false _)
  have hordinary : ((s.positional.zip (s.bound.drop s.positionalOnly.length)).map
    (.of .positional)).filter
      Declared.isReported = ((pairDefaults s.positional s.defaults).filter fun p =>
        !isReceiver p.1).map
        (.of .positional) := by
    rw [pairDefaults_eq h, List.filter_map]
    rfl
  have hall {α : Type} (f : α → Declared) (hf : ∀ a, (f a).isReported = true) (as : List α) :
      (as.map f).filter Declared.isReported = as.map f :=
    List.filter_eq_self.2 (List.forall_mem_map.2 fun a _ => hf a)
  rw [shownParameters, Signature.declared]
  simp only [List.filter_append, List.map_append, honly, hordinary, List.map_map]
  rw [hall _ (fun _ => rfl), hall _ (fun _ => rfl), hall _ (fun _ => rfl)]
  simp only [List.map_map]
  rfl

def Declared.Hinted (d : Declared) : Prop := ∀ e, d.parameter.hint = some e → ∃ t, e.text = .ok t

/-- A parameter is shown under its name, with the text of its own type hint, and with that of its
own default unless there is none. -/
structure Declared.Shown (d : Declared) (p : ParameterDoc) : Prop where
  name : p.name = d.name
  hint : Option.Rel (fun e t => e.text = .ok t) d.parameter.hint p.hint
  default : ∀ t, p.default = some t ↔ ∃ e, d.default = some e ∧ e.text = .ok t
  description : p.description = none

theorem hintText_eq_ok {hint : Option Expr} {t : Option String} :
    hintText hint = .ok t ↔ Option.Rel (fun e t => e.text = .ok t) hint t := by
  cases hint with
  | none =>
    constructor
    · intro h
      cases h
      exact .none
    · intro h
      cases h
      rfl
  | some e =>
    constructor
    · intro h
      obtain ⟨u, hu, h⟩ := bind_eq_ok.1 h
      cases h
      exact .some hu
    · intro h
      cases h with
      | some hu => exact bind_eq_ok.2 ⟨_, hu, rfl⟩

theorem defaultText_eq_some {default : Option Expr} {t : String} :
    defaultText default = some t ↔ ∃ e, default = some e ∧ e.text = .ok t := by
  rw [defaultText, Option.bind_eq_some_iff]
  refine exists_congr fun e => and_congr_right fun _ => ?_
  cases e.text <;> simp [Except.toOption]

theorem showParameter_eq_ok {d : Declared} {p : ParameterDoc} :
    showParameter d.kind.stars d.parameter d.default = .ok p ↔ d.Shown p := by
  constructor
  · intro h
    obtain ⟨hint, hhint, h⟩ := bind_eq_ok.1 h
    cases h
    exact ⟨rfl, hintText_eq_ok.1 hhint, fun t => defaultText_eq_some, rfl⟩
  · intro h
    obtain ⟨name, hint, default, description⟩ := p
    obtain rfl : name = d.name := h.name
    obtain rfl : default = defaultText d.default :=
      Option.ext fun t => (h.default t).trans defaultText_eq_some.symm
    obtain rfl : description = none := h.description
    exact bind_eq_ok.2 ⟨hint, hintText_eq_ok.2 h.hint, rfl⟩

theorem exists_shown {d : Declared} : (∃ p, d.Shown p) ↔ d.Hinted := by
  constructor
  · rintro ⟨p, hp⟩ e he
    obtain ⟨t, ht⟩ : ∃ t, hintText (some e) = .ok t := ⟨p.hint, hintText_eq_ok.2 (he ▸ hp.hint)⟩
    obtain ⟨u, hu, -⟩ := bind_eq_ok.1 ht
    exact ⟨u, hu⟩
  · intro h
    obtain ⟨hint, hhint⟩ : ∃ t, Option.Rel (fun e t => e.text = .ok t) d.parameter.hint t := by
      cases he : d.parameter.hint with
      | none => exact ⟨none, .none⟩
      | some e =>
        obtain ⟨t, ht⟩ := h e he
        exact ⟨some t, .some ht⟩
    exact ⟨⟨d.name, hint, defaultText d.default, none⟩, rfl, hhint,
      fun t => defaultText_eq_some, rfl⟩

section

variable {s : Signature} (h : s.defaults.length ≤ s.positionalOnly.length + s.positional.length)

include h

theorem showParameters_eq_ok {ps : List ParameterDoc} :
    showParameters s = .ok ps ↔
    List.Forall₂ Declared.Shown (s.declared.filter Declared.isReported) ps := by
  rw [showParameters, shownParameters_eq h, mapM_eq_ok, List.forall₂_map_left_iff]
  exact ⟨.imp fun _ _ => showParameter_eq_ok.1, .imp fun _ _ => showParameter_eq_ok.2⟩

theorem showParameters_returns_iff :
    (∃ ps, showParameters s = .ok ps) ↔ ∀ d ∈ s.declared, d.isReported = true → d.Hinted := by
  simp only [showParameters_eq_ok h]
  rw [← List.forall_mem_filter]
  generalize s.declared.filter Declared.isReported = ds
  induction ds with
  | nil => simp
  | cons d ds ih =>
    rw [List.forall_mem_cons, ← ih, ← exists_shown]
    constructor
    · rintro ⟨ps, hps⟩
      obtain ⟨p, qs, hp, hqs, -⟩ := List.forall₂_cons_left_iff.1 hps
      exact ⟨⟨p, hp⟩, qs, hqs⟩
    · rintro ⟨⟨p, hp⟩, ps, hps⟩
      exact ⟨p :: ps, .cons hp hps⟩

end

/-! ## complete lists -/

/-- **when every parameter is shown** The list that is shown has one entry for each parameter that
was written, in the order of writing, under its name and with its own type hint, receivers apart, if
and only if no other parameter is positional only and every type hint can be written. -/
theorem parameters_complete_iff {items : List ParamItem} {s : Signature}
    (hs : signatureOf items = some s) :
    (∃ ps, showParameters s = .ok ps ∧
      List.Forall₂ (fun d p => p.name = d.name ∧
        Option.Rel (fun e t => e.text = .ok t) d.parameter.hint p.hint)
        ((declaredIn false items).filter fun d => !d.isReceiver) ps) ↔
      ∀ d ∈ declaredIn false items, d.isReceiver = false → d.kind ≠ .positionalOnly ∧ d.Hinted := by
  obtain ⟨hdefaults, hdeclared⟩ := declared_signatureOf hs
  have hreported : (declaredIn false items).filter Declared.isReported =
      ((declaredIn false items).filter fun d => !d.isReceiver).filter fun d =>
        d.kind != .positionalOnly := by
    rw [List.filter_filter]
    rfl
  constructor
  · rintro ⟨ps, hps, hcomplete⟩
    have hshown := (showParameters_eq_ok hdefaults).1 hps
    rw [hdeclared, hreported] at hshown
    -- as many are shown as there are, so none was left out
    have hlength := hshown.length_eq.trans hcomplete.length_eq.symm
    have hkinds := List.length_filter_eq_length_iff.1 hlength
    intro d hd hreceiver
    have hmem : d ∈ (declaredIn false items).filter fun d => !d.isReceiver :=
      List.mem_filter.2 ⟨hd, by rw [hreceiver]; rfl⟩
    have hkind : d.kind ≠ .positionalOnly := by simpa using hkinds d hmem
    refine ⟨hkind, (showParameters_returns_iff hdefaults).1 ⟨ps, hps⟩ d (hdeclared ▸ hd) ?_⟩
    rw [Declared.isReported, hreceiver, bne_iff_ne.2 hkind]
    rfl
  · intro hall
    have hreturns : ∃ ps, showParameters s = .ok ps := by
      refine (showParameters_returns_iff hdefaults).2 fun d hd hd' => ?_
      rw [hdeclared] at hd
      have hreceiver : d.isReceiver = false := by
        simpa using (Bool.and_eq_true_iff.1 hd').2
      exact (hall d hd hreceiver).2
    obtain ⟨ps, hps⟩ := hreturns
    have hshown := (showParameters_eq_ok hdefaults).1 hps
    have hkept : (((declaredIn false items).filter fun d => !d.isReceiver).filter
        fun d => d.kind != .positionalOnly) = (declaredIn false items).filter fun d =>
          !d.isReceiver := by
      refine List.filter_eq_self.2 fun d hd => ?_
      obtain ⟨hd, hreceiver⟩ := List.mem_filter.1 hd
      exact bne_iff_ne.2 (hall d hd (by simpa using hreceiver)).1
    rw [hdeclared, hreported, hkept] at hshown
    exact ⟨ps, hps, hshown.imp fun d p hd => ⟨hd.name, hd.hint⟩⟩

/-- `self, /, item: int, *rest, key=1, **more` -/
def insertItems : List ParamItem :=
  [.plain ⟨"self", none⟩ none, .slash, .plain ⟨"item", some (.name "int")⟩ none,
    .star (some ⟨"rest", none⟩),
    .plain ⟨"key", none⟩ (some (.constant (.int 1))), .doubleStar ⟨"more", none⟩]

theorem insertItems_complete :
    ∃ s ps, signatureOf insertItems = some s ∧ showParameters s = .ok ps ∧
    List.Forall₂ (fun d p => p.name = d.name ∧
      Option.Rel (fun e t => e.text = .ok t) d.parameter.hint p.hint)
      ((declaredIn false insertItems).filter fun d => !d.isReceiver) ps := by
  have hhint : ∀ d ∈ declaredIn false insertItems, ∀ e, d.parameter.hint = some e →
      e = .name "int" := by
    simp [insertItems, declaredIn]
  have hkinds : ∀ d ∈ declaredIn false insertItems, d.isReceiver = false →
      d.kind ≠ .positionalOnly := by
    decide
  obtain ⟨ps, hps, hcomplete⟩ :=
    (@parameters_complete_iff insertItems _ rfl).2 fun d hd hreceiver =>
    ⟨hkinds d hd hreceiver, fun e he => ⟨"int", by rw [hhint d hd e he]; rfl⟩⟩
  exact ⟨_, ps, rfl, hps, hcomplete⟩

/-- `first, /, second` -/
def slashItems : List ParamItem :=
  [.plain ⟨"first", none⟩ none, .slash, .plain ⟨"second", none⟩ none]

/-- A positional-only parameter is not shown. -/
theorem slashItems_incomplete :
    (declaredIn false slashItems).map Declared.name = ["first", "second"] ∧
    (∀ d ∈ declaredIn false slashItems, d.isReceiver = false) ∧
    (∃ s, signatureOf slashItems = some s ∧ showParameters s = .ok [⟨"second", none, none, none⟩]) ∧
    (readSource false "pair.py" "pair" "def pair(first, /, second): pass\n").toOption.map
      (fun m => m.functions.map fun f => f.parameters.map (·.name)) = some [["second"]] :=
  ⟨by decide, by decide, ⟨_, rfl, rfl⟩, by decide +kernel⟩

/-! ## defaults -/

/-- **every parameter that is shown has its own default** The defaults of a signature belong to the
last of its positional parameters, positional-only ones included.  Wherever a default is looked up
by position one is found, nothing but a type hint keeps the parameters from being shown, and each is
shown with the text of the default it is bound to, or with none if it has no default or one that
cannot be written.  For a signature that was read from a written list the default of a parameter is
the one written beside it. -/
theorem defaults_paired {s : Signature}
    (hs : s.defaults.length ≤ s.positionalOnly.length + s.positional.length) :
    (∀ i p d, (pairDefaults s.positional s.defaults)[i]? = some (p, d) →
      (d.isSome ↔ s.positional.length ≤ i + s.defaults.length)) ∧
    ((∃ ps, showParameters s = .ok ps) ↔ ∀ d ∈ s.declared, d.isReported = true → d.Hinted) ∧
    (∀ ps, showParameters s = .ok ps → List.Forall₂ (fun d p => p.name = d.name ∧
      ∀ t, p.default = some t ↔ ∃ e, d.default = some e ∧ e.text = .ok t)
        (s.declared.filter Declared.isReported) ps) ∧
    ∀ items, signatureOf items = some s → s.declared = declaredIn false items := by
  refine ⟨fun i p d => isSome_pairDefaults, showParameters_returns_iff hs, fun ps hps => ?_,
    fun items hitems =>
    (declared_signatureOf hitems).2⟩
  exact ((showParameters_eq_ok hs).1 hps).imp fun d p hd => ⟨hd.name, hd.default⟩

/-- `first=1, /, cls=2, second=3, *, key, last=4`: more defaults than parameters after the slash -/
def lastItems : List ParamItem :=
  [.plain ⟨"first", none⟩ (some (.constant (.int 1))), .slash, .plain ⟨"cls", none⟩
    (some (.constant (.int 2))),
    .plain ⟨"second", none⟩ (some (.constant (.int 3))), .star none, .plain ⟨"key", none⟩ none,
    .plain ⟨"last", none⟩ (some (.constant (.int 4)))]

theorem lastItems_paired :
    ∃ s ps, signatureOf lastItems = some s ∧ s.positional.length < s.defaults.length ∧
    s.defaults.length ≤ s.positionalOnly.length + s.positional.length ∧ showParameters s = .ok ps ∧
    ps.map (fun p => (p.name, p.default)) =
      [("second", some "3"), ("key", none), ("last", some "4")] ∧
    List.Forall₂ (fun d p => p.name = d.name ∧ ∀ t, p.default = some t ↔ ∃ e, d.default = some e ∧
      e.text = .ok t)
      ((declaredIn false lastItems).filter Declared.isReported) ps := by
  refine ⟨_, [⟨"second", none, some "3", none⟩, ⟨"key", none, none, none⟩,
    ⟨"last", none, some "4", none⟩], rfl, by decide, by decide, rfl, rfl, ?_⟩
  obtain ⟨-, -, hpaired, hdeclared⟩ :=
    defaults_paired (s := (signatureOf lastItems).get rfl) (by decide)
  rw [← hdeclared lastItems rfl]
  exact hpaired _ rfl

end Apidoc
