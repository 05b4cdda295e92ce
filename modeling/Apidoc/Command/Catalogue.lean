import Apidoc.Command.Usage

/-!
# The commands of the program
-/

namespace Apidoc

/-- the repository a command works on; the working directory unless another one is given -/
def repoArgument : ArgumentSpec := { name := "REPO_PATH", default := some "." }

def fileArgument : ArgumentSpec := { name := "INPUT_FILE" }

def outputFormats : List String := ["tree", "json", "flat"]

def analyzeSpec : CommandSpec :=
  { name := "analyze"
    summary := "Analyze a repository and show its structure."
    help := ["Analyze a repository and show its structure.",
      "This command extracts and displays the public API structure without generating documentation."]
    arguments := [repoArgument]
    options := [{ long := "--include-private", help := "Include private members" }] }

def clearSpec : CommandSpec :=
  { name := "clear"
    summary := "Clear all cached data and selections."
    help := ["Clear all cached data and selections."]
    arguments := [repoArgument] }

def exportSpec : CommandSpec :=
  { name := "export-selections"
    summary := "Export selections to a file for sharing or backup."
    help := ["Export selections to a file for sharing or backup."]
    arguments := [repoArgument]
    options := [{ long := "--output", short := some "-o", valueName := some "PATH",
                  help := "Export file path" }] }

def generateSpec : CommandSpec :=
  { name := "generate"
    summary := "Generate documentation for a repository."
    help := ["Generate documentation for a repository.",
      "This command analyzes the repository, extracts public API components, generates AI descriptions " ++
      "(unless --no-ai), and creates static HTML documentation."]
    arguments := [repoArgument]
    options :=
      [{ long := "--output", short := some "-o", valueName := some "PATH",
         help := "Output directory for documentation" },
       { long := "--title", short := some "-t", valueName := some "TEXT",
         help := "Documentation title" },
       { long := "--include-private", help := "Include private members (starting with _)" },
       { long := "--include-source", help := "Include source code in documentation" },
       { long := "--no-ai", help := "Skip AI description generation" },
       { long := "--use-selections",
         help := "Use existing selections from .docuagent/selections.yaml" },
       { long := "--editable",
         help := "Generate documentation in editable mode with checkboxes to select components" }] }

def importSpec : CommandSpec :=
  { name := "import-selections"
    summary := "Import selections from a file."
    help := ["Import selections from a file."]
    arguments := [repoArgument, fileArgument] }

def selectSpec : CommandSpec :=
  { name := "select"
    summary := "Interactively select which components to include in..."
    help := ["Interactively select which components to include in documentation.",
      "Opens an interactive selector to choose what to include/exclude."]
    arguments := [repoArgument] }

def tocSpec : CommandSpec :=
  { name := "toc"
    summary := "Display the table of contents for a repository."
    help := ["Display the table of contents for a repository.",
      "Shows the documentation structure that would be generated."]
    arguments := [repoArgument]
    options := [{ long := "--format", short := some "-f", valueName := some "[tree|json|flat]",
                  choices := outputFormats, help := "Output format" }] }

def versionOption : OptionSpec := { long := "--version", help := "Show the version and exit." }

def versionText : String := "DocuAgent, version 0.1.0\n"

def programSpec : ProgramSpec :=
  { help := ["DocuAgent - AI-powered documentation generator for git repositories.",
      "Generate intelligent API documentation with AI assistance."]
    options := [versionOption]
    commands :=
  [analyzeSpec, clearSpec, exportSpec, generateSpec, importSpec, selectSpec, tocSpec] }

end Apidoc
