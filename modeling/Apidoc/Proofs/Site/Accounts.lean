import Apidoc.Proofs.Page.Accounts
import Apidoc.Proofs.Page.Shape
import Apidoc.Proofs.Site.Links

/-!
# Descriptions and source code on the pages of a site

What the pages say of the components on them, against what should stand there:

* `SiteSettings.Heeds`               the user's own description is shown, else the one that was
                                     made;
* `Site.own_descriptions_shown_iff`  so it is for modules and classes; for functions and methods it
                                     is if nothing of the user's own is to be shown, or the same
                                     text;
* `Site.source_shown_iff`            source code is read back as it is if and only if it has no
                                     special character.
-/

namespace Apidoc

open Html

/-! ## descriptions -/

namespace SiteSettings

variable {s : SiteSettings}

def own (s : SiteSettings) (id : String) : Data :=
  ((s.selections.of? id).map Selection.description).getD .null

def made (s : SiteSettings) (id : String) : Data := (s.description? id).getD .null

/-- The user's own description is shown if there is one, and else the one that was made if there is
one. -/
def Heeds (s : SiteSettings) (id : String) (descriptions : List String) : Prop :=
  ((s.own id).isTrue = true → descriptions = [Fragment.escape (s.own id).display]) ∧
  ((s.own id).isTrue = false → (s.made id).isTrue = true →
    descriptions = [Fragment.escape (s.made id).display])

theorem describe_of_own {h : Header} (hown : (s.own h.id).isTrue = true) :
    s.describe h = s.own h.id := by
  rw [own] at hown ⊢
  rw [describe]
  cases hsel : s.selections.of? h.id with
  | none =>
    rw [hsel] at hown
    cases hown
  | some sel =>
    rw [hsel] at hown
    exact if_pos hown

theorem describe_of_made {h : Header} (hown : (s.own h.id).isTrue = false)
    (hmade : (s.made h.id).isTrue = true) : s.describe h = s.made h.id := by
  have hsome : (s.description? h.id).getD ((h.docs.map Data.str).getD .null) = s.made h.id := by
    rw [made] at hmade ⊢
    cases hv : s.description? h.id with
    | none =>
      rw [hv] at hmade
      cases hmade
    | some v => rfl
  rw [own] at hown
  rw [describe, hsome]
  cases hsel : s.selections.of? h.id with
  | none => rfl
  | some sel =>
    rw [hsel] at hown
    exact if_neg (by rw [show sel.description.isTrue = false from hown]; exact Bool.false_ne_true)

theorem moduleDescription_of_isTrue {m : ModuleDoc} (h : (s.describe m.toHeader).isTrue = true) :
    s.moduleDescription m = s.describe m.toHeader := if_pos h

theorem heeds_of_describe {h : Header} {d : Data}
    (hd : (s.describe h).isTrue = true → d = s.describe h) :
    s.Heeds h.id (if d.isTrue then [Fragment.escape d.display] else []) := by
  constructor
  · intro hown
    rw [describe_of_own hown] at hd
    rw [hd hown, if_pos hown]
  · intro hown hmade
    rw [describe_of_made hown hmade] at hd
    rw [hd hmade, if_pos hmade]

theorem escape_inj {t u : String} : Fragment.escape t = Fragment.escape u ↔ t = u := by
  refine ⟨fun h => String.toList_inj.mp ?_, congrArg _⟩
  rw [← unescape_escape t, h, unescape_escape]

theorem heeds_made_iff (id : String) :
    s.Heeds id (if (s.made id).isTrue then [Fragment.escape (s.made id).display] else []) ↔
      (s.own id).isTrue = false ∨ (s.made id).isTrue = true ∧ (s.made id).display =
        (s.own id).display := by
  constructor
  · intro h
    cases hown : (s.own id).isTrue with
    | false => exact .inl rfl
    | true =>
      have hshown := h.1 hown
      split at hshown
      · next hmade => exact .inr ⟨hmade, escape_inj.mp (List.singleton_inj.mp hshown)⟩
      · cases hshown
  · rintro (hown | ⟨hmade, hsame⟩)
    · exact ⟨fun h => absurd (hown.symm.trans h) Bool.false_ne_true, fun _ hmade => if_pos hmade⟩
    · rw [if_pos hmade]
      exact ⟨fun _ => by rw [hsame], fun _ _ => rfl⟩

theorem heeds_account_iff (p : Component × String) : s.Heeds p.1.id (s.account p).descriptions ↔
    p.1.kind = .module ∨ p.1.kind = .classDef ∨ (s.own p.1.id).isTrue = false ∨
      (s.made p.1.id).isTrue = true ∧ (s.made p.1.id).display = (s.own p.1.id).display := by
  obtain ⟨c, anchor⟩ := p
  cases c with
  | module m => exact iff_of_true (heeds_of_describe moduleDescription_of_isTrue) (.inl rfl)
  | classDef c => exact iff_of_true (heeds_of_describe fun _ => rfl) (.inr (.inl rfl))
  | method f => exact (heeds_made_iff f.id).trans (by
      simp [Component.kind, Component.id, Component.header])
  | function f => exact (heeds_made_iff f.id).trans (by
      simp [Component.kind, Component.id, Component.header])
  | property v => exact (heeds_made_iff v.id).trans (by
      simp [Component.kind, Component.id, Component.header])

end SiteSettings

/-! ## source code -/

namespace Fragment

def isPlain (c : Char) : Bool := c != '&' && !isMark c

theorem escapeCodeChar_cases (c : Char) :
    isPlain c = true ∧ escapeCodeChar c = [c] ∨ isPlain c = false ∧
    1 < (escapeCodeChar c).length := by
  unfold escapeCodeChar
  split
  case h_6 h₁ h₂ h₃ h₄ h₅ =>
    have hmark : isMark c = false := isMark_eq_false.mpr ⟨h₂, h₃, h₄, h₅⟩
    exact .inl ⟨by rw [isPlain, hmark, bne_iff_ne.mpr h₁]; rfl, rfl⟩
  all_goals exact .inr ⟨by decide, by decide⟩

theorem length_le_escapeCode (cs : List Char) : cs.length ≤ (cs.flatMap escapeCodeChar).length := by
  induction cs with
  | nil => exact Nat.le_refl _
  | cons c cs ih =>
    rw [List.flatMap_cons, List.length_append, List.length_cons]
    rcases escapeCodeChar_cases c with ⟨-, hc⟩ | ⟨-, hc⟩
    · rw [hc, List.length_singleton]
      omega
    · omega

/-- Only text without special characters is left as it is. -/
theorem escapeCode_eq_self_iff {t : String} : escapeCode t = t ↔ t.toList.all isPlain = true := by
  rw [← String.toList_inj, escapeCode, String.toList_ofList]
  induction t.toList with
  | nil => exact iff_of_true rfl rfl
  | cons c cs ih =>
    rw [List.flatMap_cons, List.all_cons, Bool.and_eq_true, ← ih]
    rcases escapeCodeChar_cases c with ⟨hplain, hc⟩ | ⟨hspecial, hc⟩
    · rw [hc, hplain, List.singleton_append, List.cons_inj_right]
      exact (and_iff_right rfl).symm
    · refine iff_of_false (fun hsame => ?_)
        (fun h => absurd (hspecial.symm.trans h.1) Bool.false_ne_true)
      have hlength := congrArg List.length hsame
      rw [List.length_append, List.length_cons] at hlength
      have hle := length_le_escapeCode cs
      omega

end Fragment

theorem SiteSettings.sources_account {s : SiteSettings} (hs : s.includeSource = true)
    {p : Component × String} (hp : p.1.kind = .method ∨ p.1.kind = .function) {t : String}
    (ht : p.1.header.source = some t) (hne : t ≠ "") :
    (s.account p).sources = [Fragment.escape (Fragment.escapeCode t)] := by
  obtain ⟨c, anchor⟩ := p
  have hshown : (if s.includeSource then shown c.header.source else none) = some t := by
    rw [if_pos hs, ht]
    simp [shown, Option.filter, hne]
  have hsource : s.shownSource c = some t := by
    cases c with
    | method f => exact hshown
    | function f => exact hshown
    | module m => rcases hp with h | h <;> cases h
    | classDef c => rcases hp with h | h <;> cases h
    | property v => rcases hp with h | h <;> cases h
  rw [account, hsource]
  rfl

namespace Site

theorem forall₂_pages (site : Site) {P : Component × String → Account → Prop}
    (h : ∀ p, P p (site.settings.account p)) :
    List.Forall₂ (fun m page => page.1 = pageFile m.path ∧
      List.Forall₂ (fun p a => a.kind = p.1.kind ∧ a.anchor = p.2 ∧ P p a) (site.settings.listing m)
        (accountsOf page.2)) site.shownModules site.pages := by
  rw [pages_eq, List.forall₂_map_right_iff, List.forall₂_same]
  intro m _
  rw [accountsOf_modulePage, List.forall₂_map_right_iff, List.forall₂_same]
  exact ⟨rfl, fun p _ => ⟨rfl, rfl, h p⟩⟩

/-- **Where the user's own descriptions are shown.** Along the components on the pages of a site, in
order: that of a module or a class always is, and else the one that was made.  For a function or a
method it is so if there is none of the user's own, or the one that was made is the same text. -/
theorem own_descriptions_shown_iff (site : Site) :
    List.Forall₂ (fun m page => page.1 = pageFile m.path ∧
      List.Forall₂ (fun p a => a.kind = p.1.kind ∧ a.anchor = p.2 ∧
        (site.settings.Heeds p.1.id a.descriptions ↔ p.1.kind = .module ∨ p.1.kind = .classDef ∨
          (site.settings.own p.1.id).isTrue = false ∨ (site.settings.made p.1.id).isTrue = true ∧
            (site.settings.made p.1.id).display = (site.settings.own p.1.id).display))
        (site.settings.listing m) (accountsOf page.2)) site.shownModules site.pages :=
  site.forall₂_pages SiteSettings.heeds_account_iff

def sumSite (descriptions : Ordered String Data) (selections : Selections) (source : String) :
    Site :=
  let sum := { bareFunction "f" "add" "sum.py" false with source := some source }
  let site := ofModules [bareModule "m" "sum" "sum.py" [] [sum] []] selections
  { site with settings := { site.settings with descriptions, includeSource := true } }

theorem map_pages (site : Site) : site.pages.map (fun page => accountsOf page.2) =
    site.shownModules.map fun m => (site.settings.listing m).map site.settings.account := by
  rw [pages_eq, List.map_map]
  refine List.map_congr_left fun m _ => ?_
  rw [Function.comp_apply, accountsOf_modulePage]

/-- a site whose function has a description of the user's own and one that was made -/
def rivalSite : Site :=
  sumSite [("f", .str "Adds.")] [(.str "m", .default (.str "m") true),
    (.str "f", ⟨.str "f", .bool true, .null, .str "Sums."⟩)] "x"

/-- The one that was made is shown. -/
theorem rivalSite_unheeded : rivalSite.settings.own "f" = .str "Sums." ∧
    rivalSite.pages.map (fun page => accountsOf page.2) =
      [[⟨.module, "", [], []⟩, ⟨.function, "function-add", ["Adds."], ["x"]⟩]] ∧
    ¬ rivalSite.settings.Heeds "f" ["Adds."] := by
  have hown : rivalSite.settings.own "f" = .str "Sums." := rfl
  refine ⟨hown, ?_, fun h => ?_⟩
  · rw [map_pages]
    decide +kernel
  · have hshown := h.1 (by rw [hown]; rfl)
    rw [hown] at hshown
    exact absurd hshown (by decide +kernel)

/-- **When source code is read back.** The source code of each function and method on the pages of a
site is the content of one element, and undoing the references in it once gives the source code if
and only if it has no special character. -/
theorem source_shown_iff (site : Site) (hsource : site.settings.includeSource = true) :
    List.Forall₂ (fun m page => page.1 = pageFile m.path ∧
      List.Forall₂ (fun p a => a.kind = p.1.kind ∧ a.anchor = p.2 ∧
        ∀ t, p.1.kind = .method ∨ p.1.kind = .function → p.1.header.source = some t → t ≠ "" →
          ∃ content, a.sources = [content] ∧
            (unescape content.toList = t.toList ↔ t.toList.all Fragment.isPlain = true))
        (site.settings.listing m) (accountsOf page.2)) site.shownModules site.pages := by
  refine site.forall₂_pages fun p t hkind ht hne =>
    ⟨_, SiteSettings.sources_account hsource hkind ht hne, ?_⟩
  rw [unescape_escape, String.toList_inj]
  exact Fragment.escapeCode_eq_self_iff

/-- Where the source code has no special character, it is read back. -/
theorem plainSource_shown : (sumSite [] [] "return x + 1").settings.includeSource = true ∧
    ∃ page a b content, (sumSite [] [] "return x + 1").pages = [page] ∧ accountsOf page.2 = [a, b] ∧
      b.kind = .function ∧ b.sources = [content] ∧ unescape content.toList =
        "return x + 1".toList := by
  have hpages := source_shown_iff (sumSite [] [] "return x + 1") rfl
  obtain ⟨page, rest, hpage, hrest, heq⟩ := List.forall₂_cons_left_iff.mp hpages
  obtain ⟨a, as, -, haccounts, ha⟩ := List.forall₂_cons_left_iff.mp hpage.2
  obtain ⟨b, bs, hb, hbs, hb'⟩ := List.forall₂_cons_left_iff.mp haccounts
  cases List.forall₂_nil_left_iff.mp hrest
  cases List.forall₂_nil_left_iff.mp hbs
  obtain ⟨content, hcontent, hread⟩ := hb.2.2 "return x + 1" (.inr rfl) rfl (by decide)
  exact ⟨rfl, page, a, b, content,
    heq, by rw [ha, hb'], hb.1, hcontent, hread.mpr (by decide +kernel)⟩

/-- A special character is escaped twice. -/
theorem specialSource_shown : (sumSite [] [] "x < 1").settings.includeSource = true ∧
    (sumSite [] [] "x < 1").pages.map (fun page => accountsOf page.2) =
      [[⟨.module, "", [], []⟩, ⟨.function, "function-add", [], ["x &amp;lt; 1"]⟩]] ∧
    unescape "x &amp;lt; 1".toList = "x &lt; 1".toList := by
  refine ⟨rfl, ?_, by decide +kernel⟩
  rw [map_pages]
  decide +kernel

end Site

end Apidoc
