import PluginNaming.Alias
import PluginNaming.InfoSet
import PluginNaming.Ordered.Table

set_option autoImplicit false

namespace PluginNaming

open Ordered

variable [UrlLibrary]

structure AliasTables (kind : NameKind) where
  declarations : List (Alias kind)
  targets : Table (Name kind) (Name kind)
  selectors : Table (Name kind) (Selector kind)
  plain : List (Name kind)
  renamed : List (Name kind)
  claims : Table (Name kind) (Name kind)
  published : InfoSet kind

namespace AliasTables

variable {kind : NameKind}

def empty : AliasTables kind where
  declarations := []
  targets := []
  selectors := []
  plain := []
  renamed := []
  claims := []
  published := .empty

def declare (tables : AliasTables kind) (declaration : Alias kind) (selector : Selector kind) :
    AliasTables kind :=
  { tables with
    declarations := Ordered.insert declaration tables.declarations
    targets := tables.targets.set declaration.name selector.name
    selectors := tables.selectors.set declaration.name selector }

def add (tables : AliasTables kind) (declaration : Alias kind) :
    Except Fault (AliasTables kind) :=
  let name := declaration.name
  if tables.targets.has name then .error (.duplicateName kind.label name.text)
  else
    match declaration.target with
    | .itself =>
        .ok { tables with
          declarations := Ordered.insert declaration tables.declarations
          targets := tables.targets.set name name
          plain := Ordered.insert name tables.plain }
    | .renamed selector =>
        match tables.claims.find? selector.name with
        | some first => .error (.duplicateTarget selector.name.text first.text name.text)
        | none =>
            .ok { tables.declare declaration selector with
              renamed := Ordered.insert name tables.renamed
              claims := tables.claims.set selector.name name }
    | .published selector url => do
        let published ← tables.published.add { url, name }
        return { tables.declare declaration selector with published }

def conflict? (tables : AliasTables kind) : Option (Name kind × Name kind) :=
  List.find? (fun claim => tables.plain.contains claim.1) tables.claims

def assemble (declarations : List (Alias kind)) : Except Fault (AliasTables kind) := do
  let tables ← declarations.foldlM add empty
  match tables.conflict? with
  | some (target, name) => throw (.aliasConflict name.text target.text)
  | none => return tables

end AliasTables

structure AliasSet (kind : NameKind) extends AliasTables kind where
  assembled : ∃ list, AliasTables.assemble list = .ok toAliasTables

namespace AliasSet

variable {kind : NameKind}

def empty : AliasSet kind :=
  { AliasTables.empty with assembled := ⟨[], rfl⟩ }

def ofList (declarations : List (Alias kind)) : Except Fault (AliasSet kind) :=
  match assembled : AliasTables.assemble declarations with
  | .ok tables => .ok { tables with assembled := ⟨declarations, assembled⟩ }
  | .error fault => .error fault

def parse (kind : NameKind) (text : String) : Except Fault (AliasSet kind) := do
  ofList (← readListed (Alias.entry kind) kind.label text)

def target? (set : AliasSet kind) (name : Name kind) : Option (Name kind) :=
  set.targets.find? name

def selector? (set : AliasSet kind) (name : Name kind) : Option (Selector kind) :=
  set.selectors.find? name

def declares (set : AliasSet kind) (name : Name kind) : Bool :=
  set.targets.has name

def setElements (set : AliasSet kind) (declarations : List (Alias kind)) :
    Except Fault (AliasSet kind) :=
  if sorted declarations = set.declarations then .ok set else ofList (sorted declarations)

def insert (set : AliasSet kind) (declaration : Alias kind) : Except Fault (AliasSet kind) :=
  set.setElements (set.declarations ++ [declaration])

def keep (set : AliasSet kind) (test : Alias kind → Bool) : Except Fault (AliasSet kind) :=
  set.setElements (set.declarations.filter test)

def delete (set : AliasSet kind) (declaration : Alias kind) : Except Fault (AliasSet kind) :=
  set.keep fun other => other ≠ declaration

def before (set : AliasSet kind) (limit : Name kind) : Except Fault (AliasSet kind) :=
  set.keep fun declaration => compare declaration.name limit == .lt

def onward (set : AliasSet kind) (first : Name kind) : Except Fault (AliasSet kind) :=
  set.keep fun declaration => compare declaration.name first != .lt

def between (set : AliasSet kind) (first limit : Name kind) : Except Fault (AliasSet kind) :=
  set.keep fun declaration =>
    compare declaration.name first != .lt && compare declaration.name limit == .lt

def resolve (set : AliasSet kind) (selector : Selector kind) :
    Except Fault (Option (Selector kind)) :=
  if set.plain.contains selector.name then .ok (some selector)
  else
    match set.selector? selector.name with
    | none => .ok none
    | some declared =>
        if declared.text = "" then .ok (some { declared with text := selector.text })
        else if selector.text = "" then .ok (some declared)
        else .error (.invalidAlias selector.name.text (.parametersGivenTwice declared.text))

def mergeRenamed (set : AliasSet kind) (provided merged : InfoSet kind) (name : Name kind) :
    Except Fault (InfoSet kind) :=
  match set.selector? name with
  | none => .ok merged
  | some selector =>
      match provided.byName? selector.name with
      | none => .ok merged
      | some info => merged.put (info.rename name)

def mergePublished (set : AliasSet kind) (provided merged : InfoSet kind) (info : Info kind) :
    Except Fault (InfoSet kind) :=
  match set.selector? info.name with
  | none => .ok merged
  | some selector => if provided.hasName selector.name then merged.put info else .ok merged

def merge (set : AliasSet kind) (provided : InfoSet kind) : Except Fault (InfoSet kind) := do
  let plain := provided.keep fun info => set.plain.contains info.name
  let renamed ← set.renamed.foldlM (set.mergeRenamed provided) plain
  set.published.infos.foldlM (set.mergePublished provided) renamed

-- A space keeps a url apart from the comma after it.
def printAll : List (Alias kind) → String
  | [] => ""
  | [last] => last.print
  | first :: rest =>
      first.print ++ (if first.url?.isSome then " , " else ", ") ++ printAll rest

def text (set : AliasSet kind) : String :=
  printAll set.declarations

instance : BEq (AliasSet kind) := ⟨fun a b => a.declarations == b.declarations⟩

end AliasSet

end PluginNaming
