import Quartermaster.Json.Fields

/-!
Trees of what has to be made for the orders: a product with what it is made of.
-/

namespace Quartermaster.Industry

open Json (Codec Fields)

inductive SummaryNode
  | node (typeId : Int64) (typeName : String) (quantity : Int64) (children : List SummaryNode)

namespace SummaryNode

instance : Inhabited SummaryNode := ⟨.node 0 "" 0 []⟩

def typeId : SummaryNode → Int64
  | .node typeId _ _ _ => typeId

def typeName : SummaryNode → String
  | .node _ typeName _ _ => typeName

def quantity : SummaryNode → Int64
  | .node _ _ quantity _ => quantity

def children : SummaryNode → List SummaryNode
  | .node _ _ _ children => children

/-- The fields of a product, given how what it is made of is read and written. -/
def fields (children : Codec (List SummaryNode)) : Fields SummaryNode SummaryNode :=
  Fields.done SummaryNode.node
    |>.required "eve_type_id" typeId .int64
    |>.required "eve_type_name" typeName .text
    |>.required "quantity" quantity .int64
    |>.defaulted "children" SummaryNode.children children []

def write : SummaryNode → Json
  | .node typeId typeName quantity children =>
    .ofMembers [("eve_type_id", .ofInt typeId.toInt), ("eve_type_name", .ofString typeName),
      ("quantity", .ofInt quantity.toInt), ("children", .array (writeAll children))]
where
  writeAll : List SummaryNode → List Json
    | [] => []
    | tree :: rest => write tree :: writeAll rest

/-- The codec of trees that are read where at most so many containers may be open. -/
def codecWithin : Nat → Codec SummaryNode
  | 0 => { read := fun _ document =>
             match document with
             | .array _ => .error .malformed
             | .object _ => .error .malformed
             | document => .error (Json.unexpected document)
           write := write }
  | depth + 1 =>
    { read := (fields (codecWithin depth).list).codec.read
      write := write }

def codec : Codec SummaryNode where
  read depth document := (codecWithin depth).read depth document
  write := write

end SummaryNode

structure NestedSummary where
  roots : Option (List SummaryNode)

namespace NestedSummary

def fields : Fields NestedSummary NestedSummary :=
  Fields.done NestedSummary.mk
    |>.optional "roots" (·.roots) SummaryNode.codec.list

def codec : Codec NestedSummary := fields.codec

end NestedSummary

end Quartermaster.Industry
