import ClusterBilling.Encoding.Compression
import ClusterBilling.Text.Blank

/-! The headers of requests and replies. -/
namespace ClusterBilling.Prometheus

/-- Headers by their names, which are the same in any case. -/
abbrev Headers := List (Text × Text)

namespace Headers

def isNamed (name : String) (h : Text × Text) : Bool := h.1.toString.toLower = name

/-- The value of a header by its name in lower case: the values of all that have it. -/
def value? (hs : Headers) (name : String) : Option Text :=
  match hs.filter (isNamed name) with
  | [] => none
  | named => some (.join ", " (named.map Prod.snd))

/-- The headers with one in place of all others of its name. -/
def replace (hs : Headers) (name : String) (value : Text) : Headers :=
  let others : Headers := hs.filter (!isNamed name ·)
  others ++ [(.ofString name, value)]

/-- The forms in which a body is compressed, in the order in which that was done. A form that is
not known does not count. -/
def compressions (hs : Headers) : List Encoding.Compression :=
  let names := (((hs.value? "content-encoding").getD "").chars.splitOn ',').map fun part =>
    (String.ofList (Text.stripWhile Text.isBlank part)).toLower
  names.filterMap Encoding.Compression.ofName?

end Headers
end ClusterBilling.Prometheus
