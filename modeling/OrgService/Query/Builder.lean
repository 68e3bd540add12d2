import OrgService.Query

/-!
# Building queries

Queries are built step by step. A link is reached by its path: the positions to follow from the
links of the query down. A new link starts from the entity type that its parent leads to, so a
query built this way hangs together.
-/

namespace OrgService

abbrev LinkPath := List Nat

namespace Link

/-- The link at a path, which starts with the position of `first` and continues below it. -/
def find? : LinkPath → List Link → Option Link
  | [], _ => none
  | [i], links => links[i]?
  | i :: path, links => links[i]?.bind fun l ↦ find? path l.links

def modify (change : Link → Link) : LinkPath → List Link → List Link
  | [], links => links
  | [i], links => links.modify i change
  | i :: path, links => links.modify i fun l ↦ { l with links := modify change path l.links }

end Link

namespace Query

/-- A query for an entity type, with nothing else. -/
def base (entityName : Json) : Query := ⟨entityName, ColumnSet.none, Filter.empty, [], [], none⟩

instance : Inhabited Query := ⟨base .null⟩

def modifyLink (q : Query) (path : LinkPath) (change : Link → Link) : Query :=
  { q with links := Link.modify change path q.links }

/-- Appends a link below the one at `path`, or to the query itself at the empty path; answers
with the path of the new link. -/
def addLink (q : Query) (path : LinkPath) (toEntity fromAttr toAttr : Json) (join : JoinKind) :
    Query × LinkPath :=
  match path, Link.find? path q.links with
  | _ :: _, some parent =>
    let link := Link.simple parent.toEntity toEntity fromAttr toAttr join
    (q.modifyLink path fun l ↦ { l with links := l.links ++ [link] },
      path ++ [parent.links.length])
  | _, _ =>
    let link := Link.simple q.entityName toEntity fromAttr toAttr join
    ({ q with links := q.links ++ [link] }, [q.links.length])

def addOrder (q : Query) (attr : Json) (direction : Direction) : Query :=
  { q with orders := q.orders ++ [⟨attr, direction⟩] }

/-- Changes the criteria of the query, or of the link at a path that is not empty. -/
def modifyCriteria (q : Query) (path : LinkPath) (change : Filter → Filter) : Query :=
  if path.isEmpty then { q with criteria := change q.criteria }
  else q.modifyLink path fun l ↦ { l with criteria := change l.criteria }

def setAlias (q : Query) (path : LinkPath) (aliasName : Json) : Query :=
  q.modifyLink path fun l ↦ { l with aliasName := aliasName }

def setColumns (q : Query) (path : LinkPath) (columns : ColumnSet) : Query :=
  q.modifyLink path fun l ↦ { l with columns := columns }

end Query

end OrgService
