import LossWindows.Event
import LossWindows.Pattern.Matching

/-!
# Choosing events

Which events are shown is set by a list of directives.  A directive gives a
threshold, for all origins or for those that begin with a given text; where several
directives apply, the one with the longest text decides.  Without any directive only
errors are shown.  Of these events, a pattern behind a slash leaves those in whose
wording it occurs.

A malformed directive is left out and complained about, so that the others stay in
force, and so is a pattern that is refused.

## Main definitions

* `Directive` — a threshold for some origins.
* `SettingFault` — what is wrong with a setting.
* `EventFilter.ofSetting` — the directives of a setting such as `info` or
  `lossmap::loss=debug`.
* `EventFilter.shows` — whether an event is shown.
-/

namespace LossWindows

/-- A threshold for the origins that begin with a text, or for all of them.  Without a level
no events are shown. -/
structure Directive where
  scope : Option String
  threshold : Option Level
deriving DecidableEq

/-- What is wrong with a setting. -/
inductive SettingFault
  | malformed (text : String)
  | slashes (setting : String)
  | pattern (text : String) (refusal : Pattern.Refusal)
deriving DecidableEq

def SettingFault.message : SettingFault → String
  | malformed text => s!"invalid logging spec '{text}'"
  | slashes setting => s!"invalid logging spec '{setting}' (too many '/'s)"
  | pattern text refusal => s!"invalid regex filter - {refusal.message text}"

namespace Directive

/-- The threshold of a name, in any mixture of cases. -/
def thresholdOf? (name : String) : Option (Option Level) :=
  if name.toUpper = "OFF" then some none
  else (Level.all.find? fun level => level.name = name.toUpper).map some

def trim (text : List Char) : List Char :=
  ((text.dropWhile Text.isBlank).reverse.dropWhile Text.isBlank).reverse

/-- The directive of a text: a threshold, an origin, or both around an equals sign.
An origin on its own shows everything, and a blank text is no directive. -/
def ofText (text : List Char) : Except SettingFault (Option Directive) :=
  match (trim text).splitOn '=' with
  | [[]] => .ok none
  | [single] =>
    match thresholdOf? (String.ofList single) with
    | some threshold => .ok (some ⟨none, threshold⟩)
    | none => .ok (some ⟨some (String.ofList single), some .trace⟩)
  | [scope, name] =>
    let name := String.ofList (trim name)
    if name = "" then .ok (some ⟨some (String.ofList scope), some .trace⟩)
    else
      match thresholdOf? name with
      | some threshold => .ok (some ⟨some (String.ofList scope), threshold⟩)
      | none => .error (.malformed name)
  | _ => .error (.malformed (String.ofList (trim text)))

def applies (directive : Directive) (origin : String) : Bool :=
  match directive.scope with
  | some scope => scope.toList.isPrefixOf origin.toList
  | none => true

/-- How narrow a directive is: the more text it asks for, the narrower. -/
def narrowness (directive : Directive) : Nat :=
  match directive.scope with
  | some scope => scope.utf8ByteSize
  | none => 0

def shows (directive : Directive) (level : Level) : Bool :=
  match directive.threshold with
  | some threshold => level.rank ≤ threshold.rank
  | none => false

end Directive

/-- The directives in force, no two of them with the same scope. -/
structure EventFilter where
  directives : List Directive
  pattern : Option Pattern.Expr

namespace EventFilter

/-- Only errors are shown. -/
def errorsOnly : EventFilter :=
  ⟨[⟨none, some .error⟩], none⟩

/-- Adds a directive, in the place of an earlier one with the same scope. -/
def add (directives : List Directive) (directive : Directive) : List Directive :=
  if directives.any (·.scope = directive.scope) then
    directives.map fun other => if other.scope = directive.scope then directive else other
  else
    directives ++ [directive]

/-- The filter with the given directives, where no directive stands for errors only. -/
def ofDirectives (directives : List Directive) (pattern : Option Pattern.Expr) : EventFilter :=
  match directives.foldl add [] with
  | [] => { errorsOnly with pattern := pattern }
  | directives => ⟨directives, pattern⟩

/-- The directives between commas, with the faults among them in order. -/
def directivesOf (text : List Char) : List Directive × List SettingFault :=
  let read := (text.splitOn ',').map Directive.ofText
  (read.filterMap fun r => r.toOption.join,
    read.filterMap fun | .ok _ => none | .error fault => some fault)

/-- The filter of a setting, with what is wrong with the setting. -/
def ofSetting (setting : String) : EventFilter × List SettingFault :=
  match setting.toList.splitOn '/' with
  | [text] =>
    let (directives, faults) := directivesOf text
    (ofDirectives directives none, faults)
  | [text, pattern] =>
    let (directives, faults) := directivesOf text
    let pattern := String.ofList pattern
    match Pattern.Expr.ofText pattern with
    | .ok expr => (ofDirectives directives (some expr), faults)
    | .error refusal => (ofDirectives directives none, faults ++ [.pattern pattern refusal])
  | _ => (errorsOnly, [.slashes setting])

def ofSetting? (setting : Option String) : EventFilter × List SettingFault :=
  match setting with
  | some setting => ofSetting setting
  | none => (errorsOnly, [])

/-- The narrowest directive about an origin. -/
def directive? (filter : EventFilter) (origin : String) : Option Directive :=
  (filter.directives.filter (·.applies origin)).foldl (fun best directive =>
    match best with
    | some narrower =>
      if narrower.narrowness ≤ directive.narrowness then some directive else some narrower
    | none => some directive) none

/-- Whether in the wording of an event that occurs which has to. -/
def mentions (filter : EventFilter) (event : Event) : Bool :=
  match filter.pattern with
  | some pattern => pattern.occursIn event.message
  | none => true

def shows (filter : EventFilter) (event : Event) : Bool :=
  match filter.directive? event.origin with
  | some directive => directive.shows event.level && filter.mentions event
  | none => false

end EventFilter

end LossWindows
