import PluginNaming.Info
import PluginNaming.Ordered.Sorted

set_option autoImplicit false

namespace PluginNaming

variable [UrlLibrary]

structure InfoSet (kind : NameKind) where
  infos : List (Info kind)
  ordered : Ordered.Increasing infos
  distinctNames : infos.Pairwise fun a b => a.name ≠ b.name
  distinctUrls : infos.Pairwise fun a b => a.url ≠ b.url
deriving DecidableEq

namespace InfoSet

variable {kind : NameKind}

def empty : InfoSet kind where
  infos := []
  ordered := List.Pairwise.nil
  distinctNames := List.Pairwise.nil
  distinctUrls := List.Pairwise.nil

def names (set : InfoSet kind) : List (Name kind) :=
  Ordered.sorted (set.infos.map Info.name)

def urls (set : InfoSet kind) : List Url :=
  Ordered.sorted (set.infos.map Info.url)

def contains (set : InfoSet kind) (info : Info kind) : Bool :=
  decide (info ∈ set.infos)

def byName? (set : InfoSet kind) (name : Name kind) : Option (Info kind) :=
  set.infos.find? fun info => info.name = name

def byUrl? (set : InfoSet kind) (url : Url) : Option (Info kind) :=
  set.infos.find? fun info => info.url = url

def hasName (set : InfoSet kind) (name : Name kind) : Bool :=
  set.infos.any fun info => info.name = name

def hasUrl (set : InfoSet kind) (url : Url) : Bool :=
  set.infos.any fun info => info.url = url

def add (set : InfoSet kind) (info : Info kind) : Except Fault (InfoSet kind) :=
  if urlTaken : set.hasUrl info.url = true then .error (.duplicateUrl info.url.text)
  else if nameTaken : set.hasName info.name = true then
    .error (.duplicateName kind.label info.name.text)
  else
    .ok {
      infos := Ordered.insert info set.infos
      ordered := Ordered.insert_increasing info set.infos set.ordered
      distinctNames := Ordered.insert_pairwise _ (fun _ _ => Ne.symm) info set.infos
        (fun other member same => nameTaken (by
          simpa [hasName] using ⟨other, member, same.symm⟩)) set.distinctNames
      distinctUrls := Ordered.insert_pairwise _ (fun _ _ => Ne.symm) info set.infos
        (fun other member same => urlTaken (by
          simpa [hasUrl] using ⟨other, member, same.symm⟩)) set.distinctUrls }

def ofList (infos : List (Info kind)) : Except Fault (InfoSet kind) :=
  infos.foldlM add empty

def parse (kind : NameKind) (text : String) : Except Fault (InfoSet kind) := do
  ofList (← readListed (Info.entry kind) "info" text)

def keep (set : InfoSet kind) (test : Info kind → Bool) : InfoSet kind where
  infos := set.infos.filter test
  ordered := set.ordered.filter test
  distinctNames := set.distinctNames.filter test
  distinctUrls := set.distinctUrls.filter test

def restrict (set other : InfoSet kind) : InfoSet kind :=
  set.keep fun info => other.hasUrl info.url

def delete (set : InfoSet kind) (info : Info kind) : InfoSet kind :=
  set.keep fun other => other ≠ info

def rename (set renames : InfoSet kind) : Except Fault (InfoSet kind) :=
  ofList (set.infos.map fun info =>
    match renames.byUrl? info.url with
    | some renamed => info.rename renamed.name
    | none => info)

def insert (set : InfoSet kind) (info : Info kind) : Except Fault (InfoSet kind) :=
  if set.contains info then .ok set else ofList (set.infos ++ [info])

def replace (set : InfoSet kind) (old fresh : Info kind) : Except Fault (InfoSet kind) :=
  if !set.contains old || old = fresh then .ok set
  else ofList (set.infos.map fun info => if info = old then fresh else info)

def put (set : InfoSet kind) (info : Info kind) : Except Fault (InfoSet kind) :=
  match set.byUrl? info.url with
  | some old => set.replace old info
  | none => set.insert info

def text (set : InfoSet kind) : String :=
  ", ".intercalate (set.infos.map Info.text)

end InfoSet

end PluginNaming
