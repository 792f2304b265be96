import PemBundle.Pem.Region
import PemBundle.Pem.Unarmor

/-!
# Scanning for blocks

The scan yields the blocks of a text one after the other and ends quietly: at the end of the text,
or at the first place where no region can be closed or decoded. It looks at nothing beyond the END
line of the last block that was pulled.
-/

namespace PemBundle.Pem

/-- Why a scan ended before the end of the text. -/
inductive Stop
  | unmatchedBoundary (label : String)
  | missingEnd (label : String)
  | undecodable (error : ArmorError)
  deriving DecidableEq

/-- The wording of the reason. -/
def Stop.reason : Stop → String
  | .unmatchedBoundary _ => "unmatched boundary"
  | .missingEnd _ => "missing END line"
  | .undecodable error => error.message

/-- The label of the block that was open, where the reason is about one. -/
def Stop.label? : Stop → Option String
  | .unmatchedBoundary label => some label
  | .missingEnd label => some label
  | .undecodable _ => none

/-- The blocks a scan gave, and why it stopped, if it did and was seen to. -/
structure Scan where
  blocks : List Block
  stop : Option Stop
  deriving DecidableEq

/-- The outcome of one pull. -/
inductive Pull
  | finished
  | stopped (stop : Stop)
  | block (block : Block) (rest : List Line)

/-- The next block of the lines. -/
def pull (ls : List Line) : Pull :=
  match nextRegion ls with
  | .finished => .finished
  | .unmatched label => .stopped (.unmatchedBoundary (Text.ofAscii label))
  | .unclosed label => .stopped (.missingEnd (Text.ofAscii label))
  | .region region rest =>
      match unarmor region.lines with
      | .ok block => .block block rest
      | .error e => .stopped (.undecodable e)

/-- Fewer lines are left after a block. -/
theorem pull_length {ls block rest} (h : pull ls = .block block rest) :
    rest.length < ls.length := by
  unfold pull at h
  split at h
  · exact nomatch h
  · exact nomatch h
  · exact nomatch h
  · rename_i hregion
    split at h
    · injection h with _ h
      subst h
      exact nextRegion_length hregion
    · exact nomatch h

/-- The scan of the lines to its end. -/
def scanLines (ls : List Line) : Scan :=
  match h : pull ls with
  | .finished => ⟨[], none⟩
  | .stopped stop => ⟨[], some stop⟩
  | .block block rest =>
      have := pull_length h
      let scan := scanLines rest
      ⟨block :: scan.blocks, scan.stop⟩
termination_by ls.length

/-- The scan of the lines until it has given `count` blocks. -/
def pullLines : (count : Nat) → List Line → Scan
  | 0, _ => ⟨[], none⟩
  | count + 1, ls =>
      match pull ls with
      | .finished => ⟨[], none⟩
      | .stopped stop => ⟨[], some stop⟩
      | .block block rest =>
          let scan := pullLines count rest
          ⟨block :: scan.blocks, scan.stop⟩

/-- The scan of `data` to its end. -/
def scan (data : List UInt8) : Scan := scanLines (lines data)

/-- The scan of `data` until it has given `count` blocks. -/
def pullBlocks (count : Nat) (data : List UInt8) : Scan := pullLines count (lines data)

end PemBundle.Pem
