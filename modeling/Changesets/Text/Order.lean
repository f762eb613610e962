/-!
The order of texts by their UTF-8 bytes, which is also the order by code points.
-/
namespace Changesets.Text

def bytes (text : String) : List UInt8 :=
  text.toByteArray.data.toList

/-- Whether `a` comes before `b`. -/
def precedes (a b : String) : Bool :=
  decide (bytes a < bytes b)

end Changesets.Text
