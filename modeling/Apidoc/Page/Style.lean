/-!
# The style sheet

Style rules as data, and the text they are written as: a rule lists its selectors one per line and
its declarations one per line, a comment stands on the line before a rule, and rules are a blank
line apart.
-/

namespace Apidoc

structure StyleRule where
  selectors : List String
  declarations : List (String × String)
  deriving DecidableEq, Repr

inductive StyleItem where
  | rule (r : StyleRule)
  /-- rules that hold on some media only -/
  | media (query : String) (rules : List StyleRule)
  deriving DecidableEq, Repr

structure StyleGroup where
  comment : String
  items : List StyleItem
  deriving DecidableEq, Repr

namespace StyleRule

def render (pad : String) (r : StyleRule) : String :=
  ",\n".intercalate (r.selectors.map (pad ++ ·)) ++ " \x7b\n" ++
    "".intercalate (r.declarations.map fun d => pad ++ "    " ++ d.1 ++ ": " ++ d.2 ++ ";\n") ++
      pad ++ "\x7d\n"

end StyleRule

def StyleItem.render : StyleItem → String
  | .rule r => r.render ""
  | .media query rules =>
    "@media " ++ query ++ " \x7b\n" ++ "\n".intercalate (rules.map (StyleRule.render "    ")) ++
      "\x7d\n"

def StyleGroup.render (g : StyleGroup) : String :=
  "/* " ++ g.comment ++ " */\n" ++ "\n".intercalate (g.items.map StyleItem.render)

def defaultStyles : StyleGroup :=
  ⟨"DocuAgent Default Styles", [
    .rule ⟨[":root"],
     [("--bg-color", "#ffffff"), ("--text-color", "#333333"), ("--sidebar-bg", "#f5f5f5"),
      ("--border-color", "#e0e0e0"), ("--link-color", "#0066cc"), ("--link-hover", "#004499"),
      ("--code-bg", "#f8f8f8"), ("--keyword-color", "#0000ff"), ("--string-color", "#008000"),
      ("--comment-color", "#808080"), ("--decorator-color", "#aa22ff")]⟩,
    .media "(prefers-color-scheme: dark)" [
      ⟨[":root"],
       [("--bg-color", "#1a1a1a"), ("--text-color", "#e0e0e0"), ("--sidebar-bg", "#252525"),
        ("--border-color", "#404040"), ("--link-color", "#66b3ff"), ("--link-hover", "#99ccff"),
        ("--code-bg", "#2d2d2d")]⟩],
    .rule ⟨["*"],
     [("box-sizing", "border-box"), ("margin", "0"), ("padding", "0")]⟩,
    .rule ⟨["body"],
     [("font-family",
       "-apple-system, BlinkMacSystemFont, 'Segoe UI', Roboto, Oxygen, Ubuntu, sans-serif"),
      ("line-height", "1.6"), ("color", "var(--text-color)"), ("background", "var(--bg-color)"),
      ("display", "flex"), ("min-height", "100vh")]⟩]⟩

def sidebarStyles : StyleGroup :=
  ⟨"Sidebar", [
    .rule ⟨[".sidebar"],
     [("width", "300px"), ("min-width", "300px"), ("background", "var(--sidebar-bg)"),
      ("border-right", "1px solid var(--border-color)"), ("padding", "20px"),
        ("position", "sticky"),
      ("top", "0"), ("height", "100vh"), ("overflow-y", "auto")]⟩,
    .rule ⟨[".sidebar-header h1", ".sidebar-header h2"],
     [("font-size", "1.25rem"), ("margin-bottom", "15px")]⟩,
    .rule ⟨[".back-link"],
     [("display", "block"), ("margin-bottom", "15px"), ("color", "var(--link-color)"),
      ("text-decoration", "none")]⟩,
    .rule ⟨[".back-link:hover"],
     [("color", "var(--link-hover)")]⟩,
    .rule ⟨[".search-box"],
     [("margin-bottom", "20px")]⟩,
    .rule ⟨[".search-box input"],
     [("width", "100%"), ("padding", "8px 12px"), ("border", "1px solid var(--border-color)"),
      ("border-radius", "4px"), ("background", "var(--bg-color)"), ("color", "var(--text-color)")]⟩,
    .rule ⟨[".toc h2, .toc h3", ".module-toc h3"],
     [("font-size", "0.9rem"), ("text-transform", "uppercase"), ("color", "#666"),
      ("margin-bottom", "10px")]⟩,
    .rule ⟨[".toc-list", ".module-toc ul"],
     [("list-style", "none")]⟩,
    .rule ⟨[".toc-list li", ".module-toc li"],
     [("margin-bottom", "5px")]⟩,
    .rule ⟨[".toc-list a", ".module-toc a"],
     [("color", "var(--text-color)"), ("text-decoration", "none"), ("font-size", "0.9rem")]⟩,
    .rule ⟨[".toc-list a:hover", ".module-toc a:hover"],
     [("color", "var(--link-color)")]⟩,
    .rule ⟨[".toc-children"],
     [("margin-left", "15px"), ("margin-top", "5px")]⟩,
    .rule ⟨[".module-toc ul ul"],
     [("margin-left", "15px")]⟩,
    .rule ⟨[".functions-header"],
     [("font-weight", "bold"), ("margin-top", "15px !important")]⟩]⟩

def mainContentStyles : StyleGroup :=
  ⟨"Main Content", [
    .rule ⟨[".content"],
     [("flex", "1"), ("padding", "40px"), ("max-width", "900px")]⟩,
    .rule ⟨[".content header"],
     [("margin-bottom", "30px"), ("padding-bottom", "20px"),
      ("border-bottom", "1px solid var(--border-color)")]⟩,
    .rule ⟨[".content h1"],
     [("font-size", "2rem"), ("margin-bottom", "10px")]⟩,
    .rule ⟨[".generated-at", ".file-path"],
     [("color", "#666"), ("font-size", "0.9rem")]⟩]⟩

def sectionStyles : StyleGroup :=
  ⟨"Sections", [
    .rule ⟨[".module-description", ".class-section", ".functions-section", ".function", ".method"],
     [("margin-bottom", "30px"), ("padding-bottom", "20px"),
      ("border-bottom", "1px solid var(--border-color)")]⟩,
    .rule ⟨[".class-title", ".function-signature", ".method-signature"],
     [("font-family", "'SF Mono', Monaco, 'Courier New', monospace"), ("font-size", "1rem"),
      ("background", "var(--code-bg)"), ("padding", "12px 15px"), ("border-radius", "4px"),
      ("margin-bottom", "15px"), ("overflow-x", "auto")]⟩,
    .rule ⟨[".keyword"],
     [("color", "var(--keyword-color)"), ("font-weight", "bold")]⟩,
    .rule ⟨[".decorator"],
     [("color", "var(--decorator-color)")]⟩,
    .rule ⟨[".bases", ".return-type"],
     [("color", "#666")]⟩,
    .rule ⟨[".method-name", ".function-name", ".class-title .keyword + span"],
     [("font-weight", "bold")]⟩]⟩

def descriptionStyles : StyleGroup :=
  ⟨"Description and Docstring", [
    .rule ⟨[".description"],
     [("margin-bottom", "15px"), ("padding", "10px 15px"), ("background", "#f0f7ff"),
      ("border-left", "3px solid var(--link-color)"), ("border-radius", "0 4px 4px 0")]⟩,
    .media "(prefers-color-scheme: dark)" [
      ⟨[".description"],
       [("background", "#1a2a3a")]⟩],
    .rule ⟨[".docstring"],
     [("margin-bottom", "15px")]⟩,
    .rule ⟨[".docstring pre"],
     [("background", "var(--code-bg)"), ("padding", "15px"), ("border-radius", "4px"),
      ("overflow-x", "auto"), ("font-size", "0.85rem"), ("white-space", "pre-wrap")]⟩]⟩

def tableStyles : StyleGroup :=
  ⟨"Parameters Table", [
    .rule ⟨[".parameters h4", ".parameters h5", ".class-variables h3"],
     [("font-size", "0.9rem"), ("margin-bottom", "10px")]⟩,
    .rule ⟨[".params-table"],
     [("width", "100%"), ("border-collapse", "collapse"), ("font-size", "0.9rem")]⟩,
    .rule ⟨[".params-table th", ".params-table td"],
     [("padding", "8px 12px"), ("text-align", "left"),
      ("border-bottom", "1px solid var(--border-color)")]⟩,
    .rule ⟨[".params-table th"],
     [("background", "var(--sidebar-bg)"), ("font-weight", "600")]⟩,
    .rule ⟨[".params-table code"],
     [("background", "var(--code-bg)"), ("padding", "2px 6px"), ("border-radius", "3px"),
      ("font-size", "0.85em")]⟩]⟩

def sourceCodeStyles : StyleGroup :=
  ⟨"Source Code", [
    .rule ⟨[".source-code"],
     [("margin-top", "15px")]⟩,
    .rule ⟨[".source-code summary"],
     [("cursor", "pointer"), ("color", "var(--link-color)"), ("font-size", "0.9rem")]⟩,
    .rule ⟨[".source-code pre"],
     [("background", "var(--code-bg)"), ("padding", "15px"), ("border-radius", "4px"),
      ("overflow-x", "auto"), ("font-size", "0.8rem"), ("margin-top", "10px")]⟩]⟩

def searchResultsStyles : StyleGroup :=
  ⟨"Search Results", [
    .rule ⟨[".search-results"],
     [("padding", "20px")]⟩,
    .rule ⟨[".search-results h2"],
     [("margin-bottom", "15px")]⟩,
    .rule ⟨["#results-list"],
     [("list-style", "none")]⟩,
    .rule ⟨["#results-list li"],
     [("padding", "10px"), ("border-bottom", "1px solid var(--border-color)")]⟩,
    .rule ⟨["#results-list a"],
     [("color", "var(--link-color)"), ("text-decoration", "none"), ("font-weight", "500")]⟩,
    .rule ⟨["#results-list .result-type"],
     [("font-size", "0.8rem"), ("color", "#666"), ("margin-left", "10px")]⟩,
    .rule ⟨["#results-list .result-desc"],
     [("font-size", "0.9rem"), ("color", "#666"), ("margin-top", "5px")]⟩]⟩

def editableModeStyles : StyleGroup :=
  ⟨"==================== EDITABLE MODE STYLES ====================", []⟩

def editControlStyles : StyleGroup :=
  ⟨"Edit Controls Panel", [
    .rule ⟨[".edit-controls"],
     [("background", "var(--code-bg)"), ("border", "1px solid var(--border-color)"),
      ("border-radius", "8px"), ("padding", "15px"), ("margin-bottom", "20px")]⟩,
    .rule ⟨[".edit-controls h3"],
     [("font-size", "0.85rem"), ("text-transform", "uppercase"), ("color", "#666"),
      ("margin-bottom", "12px")]⟩,
    .rule ⟨[".edit-buttons"],
     [("display", "flex"), ("gap", "8px"), ("margin-bottom", "10px")]⟩,
    .rule ⟨[".edit-btn"],
     [("flex", "1"), ("padding", "8px 12px"), ("border", "1px solid var(--border-color)"),
      ("border-radius", "4px"), ("background", "var(--bg-color)"), ("color", "var(--text-color)"),
      ("font-size", "0.85rem"), ("cursor", "pointer"), ("transition", "all 0.2s ease")]⟩,
    .rule ⟨[".edit-btn:hover"],
     [("background", "var(--sidebar-bg)"), ("border-color", "var(--link-color)")]⟩,
    .rule ⟨[".edit-btn.primary"],
     [("background", "var(--link-color)"), ("color", "white"),
       ("border-color", "var(--link-color)")]⟩,
    .rule ⟨[".edit-btn.primary:hover"],
     [("background", "var(--link-hover)"), ("border-color", "var(--link-hover)")]⟩,
    .rule ⟨[".edit-hint"],
     [("font-size", "0.75rem"), ("color", "#888"), ("margin-top", "10px"),
       ("line-height", "1.4")]⟩]⟩

def editModeBadgeStyles : StyleGroup :=
  ⟨"Edit Mode Badge", [
    .rule ⟨[".edit-mode-badge"],
     [("display", "inline-block"), ("background", "#ff9800"), ("color", "white"),
      ("padding", "4px 12px"), ("border-radius", "4px"), ("font-size", "0.8rem"),
      ("font-weight", "600"), ("margin-top", "10px")]⟩]⟩

def checkboxStyles : StyleGroup :=
  ⟨"Checkbox Labels", [
    .rule ⟨[".toc-checkbox-label", ".component-checkbox-label", ".header-checkbox-label"],
     [("display", "flex"), ("align-items", "center"), ("gap", "8px"), ("cursor", "pointer")]⟩,
    .rule ⟨[".toc-checkbox-label a", ".header-checkbox-label"],
     [("flex", "1")]⟩,
    .rule ⟨[".component-checkbox"],
     [("width", "18px"), ("height", "18px"), ("cursor", "pointer"),
      ("accent-color", "var(--link-color)")]⟩,
    .rule ⟨[".component-checkbox-label"],
     [("display", "inline-flex"), ("margin-right", "10px")]⟩]⟩

def excludedStyles : StyleGroup :=
  ⟨"Excluded Items Styling", [
    .rule ⟨[".excluded"],
     [("opacity", "0.5")]⟩,
    .rule ⟨[".excluded a"],
     [("text-decoration", "line-through"), ("color", "#999 !important")]⟩,
    .rule ⟨[".toc-item.excluded > .toc-checkbox-label > a", ".toc-item.excluded > a"],
     [("text-decoration", "line-through"), ("color", "#999")]⟩,
    .rule ⟨[".method.excluded", ".function.excluded", ".class-section.excluded"],
     [("background",
       "repeating-linear-gradient(\n        45deg,\n        transparent,\n        transparent 10px,\n        rgba(128, 128, 128, 0.05) 10px,\n        rgba(128, 128, 128, 0.05) 20px\n    )"),
      ("border-left", "3px solid #ccc"), ("padding-left", "15px"), ("margin-left", "-18px")]⟩]⟩

def headerCheckboxStyles : StyleGroup :=
  ⟨"Header checkbox in module pages", [
    .rule ⟨[".header-checkbox-label input"],
     [("margin-right", "10px")]⟩]⟩

def editableOverrideStyles : StyleGroup :=
  ⟨"Editable mode specific overrides", [
    .rule ⟨[".editable-mode .class-title", ".editable-mode .method-signature",
      ".editable-mode .function-signature"],
     [("display", "flex"), ("align-items", "flex-start"), ("gap", "10px")]⟩,
    .rule ⟨[".editable-mode .component-checkbox-label"],
     [("flex-shrink", "0")]⟩]⟩

def darkEditStyles : StyleGroup :=
  ⟨"Dark mode adjustments for edit mode", [
    .media "(prefers-color-scheme: dark)" [
      ⟨[".edit-mode-badge"],
       [("background", "#f57c00")]⟩,
      ⟨[".excluded a"],
       [("color", "#666 !important")]⟩,
      ⟨[".method.excluded", ".function.excluded", ".class-section.excluded"],
       [("background",
         "repeating-linear-gradient(\n            45deg,\n            transparent,\n            transparent 10px,\n            rgba(128, 128, 128, 0.1) 10px,\n            rgba(128, 128, 128, 0.1) 20px\n        )")]⟩]]⟩

def responsiveStyles : StyleGroup :=
  ⟨"Responsive", [
    .media "(max-width: 768px)" [
      ⟨["body"],
       [("flex-direction", "column")]⟩,
      ⟨[".sidebar"],
       [("width", "100%"), ("min-width", "100%"), ("height", "auto"), ("position", "relative")]⟩,
      ⟨[".content"],
       [("padding", "20px")]⟩,
      ⟨[".edit-buttons"],
       [("flex-direction", "column")]⟩]]⟩

def styleSheet : String :=
  "\n".intercalate ([defaultStyles, sidebarStyles, mainContentStyles, sectionStyles,
    descriptionStyles,
    tableStyles, sourceCodeStyles, searchResultsStyles, editableModeStyles, editControlStyles,
    editModeBadgeStyles, checkboxStyles, excludedStyles, headerCheckboxStyles,
      editableOverrideStyles,
    darkEditStyles, responsiveStyles].map StyleGroup.render)

end Apidoc
