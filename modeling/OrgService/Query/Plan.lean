import OrgService.Query

/-!
# Link plans

The links of a query are numbered in depth-first order, each before the links below it. A link
without an alias of its own is called by its target and its number. No two links of a query may
have the same alias.
-/

namespace OrgService

/-- A link with its alias and that of the link it hangs from, if it hangs from one. -/
structure PlannedLink where
  link : Link
  aliasName : Json
  source : Option Json
  deriving Repr

namespace Link

/-- The alias of the link with a number. -/
def effectiveAlias (l : Link) (number : Nat) : Json :=
  if l.aliasName.isGiven then l.aliasName else .str (l.toEntity.plain ++ toString number)

mutual

def plan (source : Option Json) (done : List PlannedLink) :
    Link → Except QueryFault (List PlannedLink)
  | link@⟨_, _, _, _, _, _, _, _, links⟩ =>
    let aliasName := link.effectiveAlias (done.length + 1)
    if done.any (·.aliasName.same aliasName) then .error (.duplicateAlias aliasName)
    else planEach (some aliasName) (done ++ [⟨link, aliasName, source⟩]) links

def planEach (source : Option Json) (done : List PlannedLink) :
    List Link → Except QueryFault (List PlannedLink)
  | [] => .ok done
  | l :: ls => do planEach source (← plan source done l) ls

end

end Link

namespace Query

/-- The links of a query in depth-first order. -/
def planLinks (q : Query) : Except QueryFault (List PlannedLink) :=
  Link.planEach none [] q.links

end Query

end OrgService
