import InputMethod.Schema.Basic

/-! # Tickets

A filter of a schema's list is named `klass` or `klass@table`: the kind of filter, and the
schema table its options are read from, which is the kind's own name when none is given. A
ticket carries both, with the schema's data directories; directories that cannot be read are
left out. A filter that cannot be built from its ticket says why with a `BuildError`.
-/

namespace InputMethod

/-- What a filter is built from. -/
structure Ticket where
  schema : Schema
  klass : String
  nameSpace : String
  dataDirs : DataDirs

def splitEntry (entry : String) : String × String :=
  match entry.splitOn "@" with
  | klass :: rest@(_ :: _) =>
    let table := "@".intercalate rest
    (klass, if table.isEmpty then klass else table)
  | _ => (entry, entry)

def Ticket.ofEntry (schema : Schema) (entry : String) : Ticket :=
  let (klass, nameSpace) := splitEntry entry
  { schema, klass, nameSpace,
    dataDirs := match schema.dataDirs with
      | .ok d => d
      | .error _ => {} }

/-- Why a filter of a schema's list could not be built. -/
inductive BuildError where
  /-- Its table does not fit the filter's options. -/
  | options (e : SchemaError)
  /-- No kind of filter has this name. -/
  | unknownFilter (klass : String)
  /-- The filter of kind `name` could not get what it works with. -/
  | component (name message : String)

/-- The text of a build error. -/
def BuildError.message : BuildError → String
  | .options e => e.message
  | .unknownFilter klass => "Unknown filter: " ++ klass
  | .component name message => "Cannot create filter " ++ name ++ ": " ++ message

end InputMethod
