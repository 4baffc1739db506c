namespace SuggestionReview

inductive Severity where
  | debug
  | info
  | warn
deriving DecidableEq

inductive Notice where
  | toggleRefused
  | modeToggled (mode : String)
  | draftDiscarded
  | draftIgnored
  | saveIgnored
  | saving (verb : String)
  | mappingDisagrees
  | viewerLoading
  | viewerFailed (reason : String)
  | payloadSaved (title : String)
  | applyRequested (title : String)
  | dismissRequested (title : String)
  | columnDisagrees (name : String) (mapped : Nat) (position : Option Nat)
  | navigating (column : Nat)
  | applying (title : String)
  | dismissing (title : String)
  | navigated (column : Nat) (feature : String)
  | navigatedOutside (column : Nat)
  | bindings (warning : String)
deriving DecidableEq

namespace Notice

def severity : Notice → Severity
  | toggleRefused | modeToggled _ | draftDiscarded | draftIgnored | saving _ | viewerLoading
  | navigating _ | navigated .. => .debug
  | payloadSaved _ | applyRequested _ | dismissRequested _ | applying _ | dismissing _ => .info
  | saveIgnored | mappingDisagrees | viewerFailed _ | columnDisagrees .. | navigatedOutside _
  | bindings _ => .warn

def showPosition : Option Nat → String
  | some n => s!"Some({n})"
  | none => "None"

def message : Notice → String
  | toggleRefused => "toggle edit ignored: row has no save capability"
  | modeToggled mode => "row mode toggled mode=" ++ mode
  | draftDiscarded => "discarding unsaved draft: parent supplied a new payload"
  | draftIgnored => "draft update outside editing ignored"
  | saveIgnored => "save requested while not editing; ignored"
  | saving verb => "saving action payload action_type=" ++ verb
  | mappingDisagrees => "feature id mapping does not match feature order; using it as given"
  | viewerLoading => "loading code viewer"
  | viewerFailed reason => "code viewer failed to load: " ++ reason
  | payloadSaved title => "action payload saved title=" ++ title
  | applyRequested title => "apply requested title=" ++ title
  | dismissRequested title => "dismiss requested title=" ++ title
  | columnDisagrees name mapped position =>
    "feature id mapping disagrees with feature order name=" ++ name ++
      s!" mapped={mapped} position=" ++ showPosition position
  | navigating column => s!"navigating to referenced column column={column}"
  | applying title => "applying action title=" ++ title
  | dismissing title => "dismissing action title=" ++ title
  | navigated column feature => s!"navigate requested column={column} feature=" ++ feature
  | navigatedOutside column =>
    s!"navigate requested for a column outside the feature set column={column}"
  | bindings warning => "keybindings: " ++ warning

def line (n : Notice) : String :=
  (match n.severity with
    | .debug => "DEBUG "
    | .info => "INFO "
    | .warn => "WARN ") ++ n.message

end Notice

structure LogSetup where
  installed : Bool
  files : List String
deriving DecidableEq

namespace LogSetup

def defaultName : String := "actiontui.log"

/-- Opens a log file and sends the records there. Only the first attempt succeeds, but the file is
created anyway. -/
def start (s : LogSetup) (path : Option String) : LogSetup × Bool :=
  (⟨true, s.files ++ [path.getD defaultName]⟩, !s.installed)

end LogSetup

end SuggestionReview
