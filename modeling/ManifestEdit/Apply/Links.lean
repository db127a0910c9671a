import ManifestEdit.Change
import ManifestEdit.Directive.Policy
import ManifestEdit.Manifest

/-!
# Applying rules to a dependency map

Rules first meet the entries that they match, in the order of the entries. Then each pattern that
matched no entry is reported, and adds its package where the policy inserts and it is literal.
-/

namespace ManifestEdit

namespace Links

/-- Where a change is reported. -/
structure Scope where
  pass : String
  target : String

variable (scope : Scope) (policy : MergePolicy) (rules : Rules Text)

/-- Edits a selected entry; `hits` are the patterns that match it. The map and the changes so far
are carried along. -/
def editEntry (done : Links × List Change) (package : Text) (hits : List Pattern) :
    Links × List Change :=
  match done.1.get? package, hits with
  | some old, first :: _ =>
    match policy with
    | .delete =>
      (done.1.erase package, done.2 ++
        [⟨scope.pass, scope.target, package, .removed, some first.raw, .str old, .null⟩])
    | .insertIfAbsent =>
      (done.1, done.2 ++
        [⟨scope.pass, scope.target, package, .skipped, some first.raw, .str old, .null⟩])
    | .overwrite | .overwriteIfPresent =>
      match Pattern.mostSpecific hits with
      | none => done
      | some winner =>
        match rules.get? winner.raw with
        | none => done
        | some new =>
          if new = old then done
          else
            (done.1.put package new, done.2 ++
              [⟨scope.pass, scope.target, package, .replaced, some winner.raw, .str old, .str new⟩])
  | _, _ => done

/-- Whether an idle rule adds its package. -/
def adds (policy : MergePolicy) (p : Pattern) : Bool :=
  policy.inserts && p.isLiteral

def idleChange (rule : Pattern × Text) : Change :=
  if adds policy rule.1 then
    ⟨scope.pass, scope.target, rule.1.raw, .added, some rule.1.raw, .null, .str rule.2⟩
  else
    ⟨scope.pass, scope.target, rule.1.raw, .unmatched, some rule.1.raw, .null, .null⟩

/-- Settles a rule whose pattern matched no entry. -/
def settleIdle (done : Links × List Change) (rule : Pattern × Text) : Links × List Change :=
  (if adds policy rule.1 then done.1.put rule.1.raw rule.2 else done.1,
    done.2 ++ [idleChange scope policy rule])

/-- The map after the rules, and the changes. A map that is absent stays so unless a package is
added. -/
def applyRules (links : Option Links) : Option Links × List Change :=
  let entries := links.getD OrderedMap.empty
  let selected := Pattern.select entries.keys rules.patterns
  let matched := selected.flatMap Prod.snd
  let edited := selected.foldl (fun done e => editEntry scope policy rules done e.1 e.2)
    (entries, [])
  let idle := (rules.entries.map fun e => (Pattern.mk e.1, e.2)).filter fun r =>
    !matched.contains r.1
  let (result, changes) := idle.foldl (settleIdle scope policy) edited
  (if links.isNone && result.isEmpty then none else some result, changes)

end Links

end ManifestEdit
