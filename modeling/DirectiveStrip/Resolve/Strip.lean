import DirectiveStrip.Resolve.Branch

/-!
# Stripping

Lines outside every chain are copied. A chain is replaced by its chosen branch, and a branch with
chains inside is resolved in the same way, one level deeper. A branch without is copied as it is,
in one piece.

Resolving works on lines that were read once. Byte offsets play no part in it, they are only
reported. To hand on the offsets of a branch instead, and to read it again, comes to the same
(`stripSpan_eq`).

## Main definitions

* `resolveLines`: Resolve lines that lie inside a number of chains.
* `strip`: Strip a source text.
-/

namespace DirectiveStrip

/-- Copy lines to the output, chains replaced by their chosen branches. The lines lie inside `depth`
    chains, and a branch with chains in it may lie inside fewer than `limit`. -/
def resolveLines (defined : Text → Bool) (limit depth : Nat) (lines : List ScannedLine) :
    Resolution Unit :=
  match lines with
  | [] => .done ()
  | scanned :: rest =>
    .after scanned.notes <|
      match scanned.reading with
      | .error fault => .fail (scanned.line.error fault)
      | .ok .source =>
        .after [.copied scanned.line.start scanned.line.text]
          (resolveLines defined limit depth rest)
      | .ok (.ifLine guard) =>
        let opening := scanned.line
        let choice := chooseBranch defined opening guard rest
        match _hchoice : choice.outcome with
        | .error error => ⟨choice.events, .error error⟩
        | .ok ⟨none, rest'⟩ => .after choice.events (resolveLines defined limit depth rest')
        | .ok ⟨some branch, rest'⟩ =>
          .after choice.events <|
            .after [.keeping branch.start branch.stop opening.number] <|
              if branch.opensChain then
                if limit ≤ depth then .fail (opening.error (.nestingTooDeep limit))
                else
                  .after [.resolving (depth + 1) branch.start branch.stop branch.firstLine] <|
                    (resolveLines defined limit (depth + 1) branch.lines).bind fun () =>
                      resolveLines defined limit depth rest'
              else
                .after [.copied branch.start (branch.lines.flatMap (·.line.text))]
                  (resolveLines defined limit depth rest')
      | .ok (.elifLine _) | .ok (.elseLine _) | .ok (.endifLine _) =>
        .fail (scanned.line.error .unexpectedDirective)
termination_by lines.length
decreasing_by
  · exact Nat.lt_succ_self _
  · exact Nat.lt_succ_of_le (length_chooseBranch _hchoice).1
  · exact Nat.lt_succ_of_le ((length_chooseBranch _hchoice).2 branch rfl)
  · exact Nat.lt_succ_of_le (length_chooseBranch _hchoice).1
  · exact Nat.lt_succ_of_le (length_chooseBranch _hchoice).1

/-- Strip a source: the output is everything that was copied. Nothing is returned on an error. -/
def strip (settings : Settings) (defined : Text → Bool) (source : Text) : Resolution Text :=
  let lines := scan settings source
  let run := (resolveLines defined settings.nestingLimit 0 lines).after
    [.resolving 0 0 (byteSize source) 1]
  let output := Resolution.output run
  run.bind fun () => .after [.finished (byteSize output) (byteSize source)] (.done output)

end DirectiveStrip
