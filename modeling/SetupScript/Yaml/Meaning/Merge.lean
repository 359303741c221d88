import SetupScript.Yaml.Meaning.Draft

/-!
# Merged mappings

A merge key takes the pairs of other mappings into its own. `Drafting.flatten` does so for a
mapping and for the mappings that it takes in, which it changes too. The pairs that are taken in
come first, so that those of the mapping itself win.
-/

namespace SetupScript.Yaml.Drafting

def pairs (n : Nat) : Drafting (List (Nat × Nat)) := return (← node n).content.pairs

def setPairs (n : Nat) (ps : List (Nat × Nat)) : Drafting Unit :=
  modify fun d => { d with
    nodes := d.nodes.modify n fun x => { x with content := .mapping ps } }

/-- Removes the first merge key of a mapping and gives the node behind it. -/
def takeMerge (n : Nat) : Drafting (Option Nat) := do
  let nodes := (← get).nodes
  let isMerge := fun (p : Nat × Nat) => nodes[p.1]?.any (·.tag == .merge)
  let ps ← pairs n
  match ps.find? isMerge with
  | none => return none
  | some (_, x) =>
    setPairs n (ps.eraseP isMerge)
    return some x

/-- A key `=` of a mapping that is read is a text like others. -/
def settleKey (n : Nat) : Drafting Unit :=
  modify fun d => { d with
    nodes := d.nodes.modify n fun x => if x.tag == .value then { x with tag := .text } else x }

mutual

/-- Fuel bounds the depth, which grows only where a merge key has been removed. -/
def flattenWithin : Nat → Nat → Drafting Unit
  | 0, _ => fail "found no end of the merge keys"
  | fuel + 1, n => do
    let taken ← takenIn fuel n
    let ps := taken ++ (← pairs n)
    setPairs n ps
    ps.forM fun p => settleKey p.1

/-- The pairs behind all merge keys of a mapping. -/
def takenIn : Nat → Nat → Drafting (List (Nat × Nat))
  | 0, _ => fail "found no end of the merge keys"
  | fuel + 1, n => do
    match ← takeMerge n with
    | none => return []
    | some x =>
      let ps ← pairsBehind fuel x
      return ps ++ (← takenIn fuel n)

/-- The pairs behind a merge key; of several mappings the first one comes last. -/
def pairsBehind : Nat → Nat → Drafting (List (Nat × Nat))
  | 0, _ => fail "found no end of the merge keys"
  | fuel + 1, x => do
    match (← node x).content with
    | .text _ => fail "expected mappings for merging"
    | .mapping _ =>
      flattenWithin fuel x
      pairs x
    | .sequence xs =>
      let parts ← xs.mapM fun y => do
        if !(← node y).content.isMapping then fail "expected a mapping for merging"
        flattenWithin fuel y
        pairs y
      return parts.reverse.flatten

end

/-- Takes the pairs behind the merge keys of a mapping into its own. -/
def flatten (n : Nat) : Drafting Unit := do
  let count := (← get).nodes.foldl (fun k x => k + x.content.pairs.length) 0
  flattenWithin (4 * count + 4) n

end SetupScript.Yaml.Drafting
