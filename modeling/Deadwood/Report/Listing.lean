/-
Lists of dead items, as plain text and as JSON.

An item is a JSON document, or something that has a text but no JSON form. If one
such item is present, the JSON listing gives the text of every item instead.
-/
import Deadwood.Json.Basic
import Deadwood.Value.Display

namespace Deadwood

/-- An item of a listing. -/
inductive ListingItem where
  | document (json : Json)
  | textOnly (text : String)
  deriving Repr

namespace ListingItem

/-- The text of an item. -/
def text : ListingItem → String
  | document json => json.toValue.display
  | textOnly text => text

/-- The JSON form of an item. -/
def json? : ListingItem → Option Json
  | document json => some json
  | textOnly _ => none

end ListingItem

/-- The plain listing. -/
def plainListing (items : List ListingItem) : String :=
  if items.isEmpty then "No dead modules found."
  else "\n".intercalate (s!"DEAD MODULES ({items.length}):" :: items.map fun item => s!"- {item.text}")

/-- The JSON listing. -/
def jsonListing (items : List ListingItem) : String :=
  match items.mapM ListingItem.json? with
  | some documents => (Json.object [("dead", .list documents)]).pretty
  | none => "\x7b\"dead\": [" ++ ", ".intercalate (items.map fun item => Json.quote item.text) ++ "]\x7d"

/-- Paths as items of a listing. -/
def pathItems (paths : List String) : List ListingItem :=
  paths.map fun path => .document (.text path)

end Deadwood
