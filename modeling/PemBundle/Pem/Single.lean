import PemBundle.Logged
import PemBundle.Outcome

/-!
# Decoding a single block

The first block of a text, with a check of its label. The scan that finds it goes no further than
the block. A text without UTF-8 bytes breaks off before anything is scanned.
-/

namespace PemBundle.Pem

/-- Which labels a block may carry. -/
inductive LabelRule
  | any
  | oneOf (labels : List String)
  /-- The label is a part of the text. -/
  | partOf (text : String)

/-- Whether `part` occurs in `whole`. -/
def occursIn (part : List Char) : (whole : List Char) → Bool
  | [] => part.isEmpty
  | c :: rest => part.isPrefixOf (c :: rest) || occursIn part rest

/-- Whether the rule allows the label. -/
def LabelRule.allows (label : String) : LabelRule → Bool
  | .any => true
  | .oneOf labels => labels.contains label
  | .partOf text => occursIn label.toList text.toList

/-- The label of certificate blocks. -/
def certificateLabel : String := "CERTIFICATE"

/-- The label of signing request blocks. -/
def requestLabel : String := "CERTIFICATE REQUEST"

/-- The labels of private key blocks. -/
def privateKeyLabels : List String :=
  ["RSA PRIVATE KEY", "EC PRIVATE KEY", "ENCRYPTED PRIVATE KEY", "PRIVATE KEY"]

/-- The first block of `data`, if there is one and the rule allows its label; messages call the data
`what`. -/
def decodeSingle (data : Option (List UInt8)) (what : String) (rule : LabelRule) :
    Logged (Outcome Block) := do
  match data with
  | none | some [] => pure (.fail .malformedInput (what ++ " is empty"))
  | some bytes =>
      match ← (pullBlocks 1 bytes).logged with
      | [] => pure (.fail .malformedInput (what ++ " is not valid PEM data"))
      | block :: _ =>
          if rule.allows block.label then pure (.success block)
          else
            pure (.fail .malformedInput
              (what ++ " has unexpected PEM label " ++ Text.quoted block.label))

/-- The first block of data that may be a text. -/
def decodeRaw (data : Option RawData) (what : String) (rule : LabelRule) :
    Breaking (Outcome Block) := do
  match data with
  | none => decodeSingle none what rule
  | some data => decodeSingle (some (← data.encode)) what rule

end PemBundle.Pem
