import PemBundle.Text.Case
import PemBundle.Text.CodePoint

/-!
# Chain order

No block of a bundle says which certificate is the end entity's. Its place among the certificates
decides, under an order that the caller declares: the root last, the root first, or only the first
certificate counting.
-/

namespace PemBundle

/-- How the order of certificates in a bundle is read. -/
inductive ChainOrder
  | rootLast
  | rootFirst
  | ignore
  deriving DecidableEq

namespace ChainOrder

/-- The name of an order in settings and events. -/
def name : ChainOrder → String
  | .rootLast => "root-last"
  | .rootFirst => "root-first"
  | .ignore => "ignore"

/-- The order of exactly this name. -/
def ofName? (text : String) : Option ChainOrder :=
  if text = "root-last" then some .rootLast
  else if text = "root-first" then some .rootFirst
  else if text = "ignore" then some .ignore
  else none

/-- The order that free text asks for, whatever its case; the root comes last unless it says
otherwise. -/
def ofText (text : Option CodeText) : ChainOrder :=
  ((text.bind CodeText.unicode?).bind fun name => ofName? (Text.lower name)).getD .rootLast

@[simp] theorem ofName?_name (order : ChainOrder) : ofName? order.name = some order := by
  cases order <;> rfl

end ChainOrder

/-- The end entity's item and the items of its chain. -/
structure Roles (α : Type) where
  leaf : Option α
  chain : List α
  deriving DecidableEq

/-- The roles of items in the given order; the chain keeps their relative order. -/
def ChainOrder.assign {α : Type} (order : ChainOrder) (items : List α) : Roles α :=
  match order with
  | .rootLast => ⟨items.head?, items.tail⟩
  | .rootFirst => ⟨items.getLast?, items.dropLast⟩
  | .ignore => ⟨items.head?, []⟩

@[simp] theorem ChainOrder.assign_nil {α : Type} (order : ChainOrder) :
    order.assign ([] : List α) = ⟨none, []⟩ := by
  cases order <;> rfl

end PemBundle
