import ClusterBilling.Text.Blank

/-! Query texts with places to fill in. -/
namespace ClusterBilling
open Text

/-- What is filled in, by the name of its place. -/
abbrev Filling := String → Text

/--
The text with its places filled in, read once from left to right: what is filled in is not read
again. A place is a name in braces, and a brace that is text is written twice. `name?` holds the
letters so far, in reverse, while a name is being read.
-/
def fillChars (filling : Filling) : (name? : Option (List Char)) → List Char → List CodePoint
  | _, [] => []
  | some name, c :: cs =>
    if c = '\x7d' then (filling (String.ofList name.reverse)).points ++ fillChars filling none cs
    else fillChars filling (some (c :: name)) cs
  | none, '\x7b' :: '\x7b' :: cs => .scalar '\x7b' :: fillChars filling none cs
  | none, '\x7d' :: '\x7d' :: cs => .scalar '\x7d' :: fillChars filling none cs
  | none, c :: cs =>
    if c = '\x7b' then fillChars filling (some []) cs else .scalar c :: fillChars filling none cs

def fill (template : String) (filling : Filling) : Text :=
  ⟨fillChars filling none template.toList⟩

/-- What follows a range selector to look into the past: ` offset 3h`, or nothing when the offset
is blank. -/
def offsetClause (offset : Text) : Text :=
  let offset := strip offset
  if offset.isEmpty then "" else " offset " ++ offset

/-- The costs of local storage, added to those of volumes: nothing when there is no query for
them. -/
def storageTerm (query : Text) : Text :=
  let query := strip query
  if query.isEmpty then "" else " + " ++ query

/-- The filling for a window, a text for the offset and the term for local storage. -/
def windowFilling (window offset storage : Text) : Filling
  | "window" => window
  | "offset" => offset
  | "local_storage" => storage
  | _ => ""

end ClusterBilling
