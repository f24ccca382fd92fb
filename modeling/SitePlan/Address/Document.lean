import SitePlan.Address.Cidr
import SitePlan.Document
import SitePlan.Json

/-!
# Addresses in documents
-/

namespace SitePlan

variable {δ : Type} [Document δ]

/-- An address in a document. -/
def Ipv4.read? (d : δ) : Option Ipv4 := do parse? (← Document.text? d)

/-- A block in a document. -/
def Cidr.read? (d : δ) : Option Cidr := do parse? (← Document.text? d)

/-- An address in JSON. -/
def Ipv4.toJson (ip : Ipv4) : Json := .string ip.render

/-- A block in JSON. -/
def Cidr.toJson (c : Cidr) : Json := .string c.render

end SitePlan
