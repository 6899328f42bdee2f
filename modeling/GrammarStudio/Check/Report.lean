import GrammarStudio.Diagnostics.View
import GrammarStudio.Settings.Basic

/-!
# The report of a check

A check prints what an analysis came to, as lines of text or as HTML.

* `Check.Format`, `Check.Options` — what is checked, and how the report is to look;
* `Options.textReport`, `Options.htmlReport` — the two reports of a view.
-/

namespace GrammarStudio.Check

open Diagnostics Editor

inductive Format where
  | text
  | html
  deriving DecidableEq, Repr, Inhabited

/-- What is checked, and how.  The text to parse stands in a file, or on the command line, which then wins. -/
structure Options where
  grammar : String
  code : Option String := none
  source : Option String := none
  optimization : Optimization := .full
  packrat : Bool := false
  ast : Bool := false
  profile : Bool := false
  format : Format := .text
  deriving DecidableEq, Repr

/-- A text of the analysis that the report holds. -/
structure Artifact where
  name : String
  text : String
  deriving DecidableEq, Repr

namespace Options

/-- Is there a text to parse? -/
def hasCode (o : Options) : Bool := o.code.isSome || o.source.isSome

/-- What the report calls the text that was parsed. -/
def codeName (o : Options) : String :=
  match o.source, o.code with
  | some _, _ => "[commandline]"
  | none, some path => path
  | none, none => "[code]"

/-- What the report calls a document. -/
def documentName (o : Options) : Document → String
  | .grammar => o.grammar
  | .code => o.codeName

/-- The texts that were asked for.  The tree is the optimised one where optimisation is on. -/
def artifacts (o : Options) (view : View) : List Artifact :=
  (if o.ast then [⟨"ast", if o.optimization.enabled then view.astOptimized else view.ast⟩] else []) ++
    if o.profile then [⟨"profile", view.profile⟩] else []

/-- The line of an error. -/
def errorLine (name : String) (item : ErrorItem) : String := name ++ ":" ++ item.label ++ ": " ++ item.message ++ "\n"

/-- The lines of a document's errors. -/
def errorLines (o : Options) (view : View) (d : Document) : String :=
  String.join ((view.items d).map (errorLine (o.documentName d)))

/-- A text that ends its last line. -/
def closedLines (text : String) : String := if text.isEmpty || text.endsWith "\n" then text else text ++ "\n"

/-- The report in lines of text. -/
def textReport (o : Options) (view : View) : String :=
  o.errorLines view .grammar ++ o.errorLines view .code ++
    String.join ((o.artifacts view).map fun a => closedLines a.text)

/-- An element with an identity of its own. -/
def element (tag id content : String) : String :=
  "<" ++ tag ++ " id=\"" ++ id ++ "\">" ++ content ++ "</" ++ tag ++ ">\n"

/-- The report in HTML. -/
def htmlReport (o : Options) (view : View) : String :=
  element "section" "grammar-info" (listHtml (view.items .grammar)) ++
    element "section" "code-info" (listHtml (view.items .code)) ++
    String.join ((o.artifacts view).map fun a => element "pre" a.name (escape a.text))

/-- The report in the format that was asked for. -/
def report (o : Options) (view : View) : String :=
  match o.format with
  | .text => o.textReport view
  | .html => o.htmlReport view

end Options

end GrammarStudio.Check
