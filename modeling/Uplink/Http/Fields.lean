/-!
# Named fields

The headers and form parameters of a request are texts by name. A name occurs
once: setting it again replaces the value. The fields are kept in the order of
their names, by code point, which is the order they are sent in, so two
requests with the same fields are the same request.
-/

namespace Uplink

/-- **Texts by name**, in the order of the names. -/
structure Fields where
  entries : List (String × String)
deriving DecidableEq, Repr

namespace Fields

/-- No fields. -/
def empty : Fields := ⟨[]⟩

instance : EmptyCollection Fields := ⟨empty⟩

instance : Inhabited Fields := ⟨empty⟩

/-- A field put in its place among fields in order. -/
def insert (name value : String) : List (String × String) → List (String × String)
  | [] => [(name, value)]
  | (n, v) :: rest =>
    if name < n then (name, value) :: (n, v) :: rest
    else if name = n then (name, value) :: rest
    else (n, v) :: insert name value rest

/-- **Sets a field**, replacing its earlier value. -/
def set (fs : Fields) (name value : String) : Fields :=
  ⟨insert name value fs.entries⟩

/-- The value of a field. -/
def get? (fs : Fields) (name : String) : Option String :=
  fs.entries.lookup name

/-- Sets several fields one after the other. -/
def setAll (fs : Fields) (entries : List (String × String)) : Fields :=
  entries.foldl (fun fs e => fs.set e.1 e.2) fs

@[simp] theorem get?_empty (name : String) : (∅ : Fields).get? name = none := rfl

theorem lookup_insert (name value m : String) (entries : List (String × String)) :
    (insert name value entries).lookup m =
      if m = name then some value else entries.lookup m := by
  induction entries with
  | nil => grind [insert]
  | cons e rest ih => grind [insert]

/-- **A field that is set has its value**, and the others keep theirs. -/
@[simp] theorem get?_set (fs : Fields) (name value m : String) :
    (fs.set name value).get? m = if m = name then some value else fs.get? m :=
  lookup_insert ..

end Fields

end Uplink
