import OrgService.Proofs.Query.Attachment
import OrgService.Query.Builder

/-!
# Queries that are built

A query is built step by step. Every link that a step adds starts from the type that its parent
leads to, and no step changes where a link starts or leads to. So what is built hangs together,
whatever the steps.
-/

namespace OrgService

namespace Link

variable {attachedTo : Json} {ls : List Link}

theorem allHang_iff :
    AllHang attachedTo ls ↔ ∀ l ∈ ls, l.HangsFrom attachedTo ∧ AllHang l.toEntity l.links := by
  unfold AllHang
  induction ls with
  | nil => simp
  | cons l ls ih =>
      rw [attachmentsEach_cons, List.forall_mem_cons, List.forall_mem_append, ih,
        List.forall_mem_cons, and_assoc]

theorem mem_modify {change : Link → Link} {i : ℕ} {l : Link} (h : l ∈ ls.modify i change) :
    l ∈ ls ∨ ∃ l', ls[i]? = some l' ∧ l = change l' := by
  obtain ⟨j, hj⟩ := List.mem_iff_getElem?.mp h
  rw [List.getElem?_modify] at hj
  obtain ⟨l', hl', hchanged⟩ := Option.map_eq_some_iff.mp hj
  split at hchanged
  · rename_i hij
    exact .inr ⟨l', hij ▸ hl', hchanged.symm⟩
  · exact .inl (hchanged ▸ List.mem_of_getElem? hl')

/-- A change of a link that disturbs neither it nor the links below it. -/
def Undisturbed (change : Link → Link) (l : Link) : Prop :=
  ∀ attachedTo, l.HangsFrom attachedTo → AllHang l.toEntity l.links →
    (change l).HangsFrom attachedTo ∧ AllHang (change l).toEntity (change l).links

/-- A change of the link at a path disturbs the forest only if it disturbs that link. -/
theorem AllHang.modify {change : Link → Link} {path : LinkPath} (h : AllHang attachedTo ls)
    (hchange : ∀ l, find? path ls = some l → Undisturbed change l) :
    AllHang attachedTo (Link.modify change path ls) := by
  induction path generalizing attachedTo ls with
  | nil => exact h
  | cons i path ih =>
      rw [allHang_iff] at h ⊢
      -- Only the last index of a path names the link that is changed.
      cases path with
      | nil =>
          intro l hl
          rcases mem_modify hl with hl | ⟨l', hl', rfl⟩
          · exact h l hl
          · obtain ⟨hlink, hbelow⟩ := h l' (List.mem_of_getElem? hl')
            exact hchange l' hl' attachedTo hlink hbelow
      | cons j path =>
          intro l hl
          rcases mem_modify hl with hl | ⟨l', hl', rfl⟩
          · exact h l hl
          · obtain ⟨hlink, hbelow⟩ := h l' (List.mem_of_getElem? hl')
            have hinner := ih hbelow fun l hfound ↦ hchange l (by simp [find?, hl', hfound])
            exact ⟨⟨hlink.source, hlink.target, hlink.called⟩, hinner⟩

theorem AllHang.append {l : Link} (h : AllHang attachedTo ls) (hl : l.HangsFrom attachedTo)
    (hbelow : AllHang l.toEntity l.links) : AllHang attachedTo (ls ++ [l]) := by
  rw [allHang_iff] at h ⊢
  rw [List.forall_mem_append]
  exact ⟨h, by simpa using ⟨hl, hbelow⟩⟩

theorem hangsFrom_simple {fromEntity toEntity : Json} (fromAttr toAttr : Json) (join : JoinKind)
    (htarget : toEntity.IsText) :
    (simple fromEntity toEntity fromAttr toAttr join).HangsFrom fromEntity :=
  ⟨rfl, htarget, .inl rfl⟩

end Link

namespace Query

/-- A step of building. Names are texts, and so are aliases unless they are taken away; a link is
reached by its path. -/
inductive BuildStep where
  | addLink (path : LinkPath) (toEntity fromAttr toAttr : String) (join : JoinKind)
  | addOrder (attr : String) (direction : Direction)
  | setAlias (path : LinkPath) (aliasName : Option String)
  | setColumns (path : LinkPath) (columns : ColumnSet)
  /-- Adds conditions or filters to the criteria, or changes them in another way. -/
  | modifyCriteria (path : LinkPath) (change : Filter → Filter)
  | selectColumns (columns : ColumnSet)
  | setTopCount (topCount : Option Int)

namespace BuildStep

def aliasName : Option String → Json
  | some s => .str s
  | none => .null

def apply (q : Query) : BuildStep → Query
  | addLink path toEntity fromAttr toAttr join =>
    (q.addLink path (.str toEntity) (.str fromAttr) (.str toAttr) join).1
  | addOrder attr direction => q.addOrder (.str attr) direction
  | setAlias path name => q.setAlias path (aliasName name)
  | setColumns path columns => q.setColumns path columns
  | modifyCriteria path change => q.modifyCriteria path change
  | selectColumns columns => { q with columns := columns }
  | setTopCount topCount => { q with topCount := topCount }

end BuildStep

/-- The query for an entity type that comes of a sequence of steps. -/
def build (entityName : String) (steps : List BuildStep) : Query :=
  steps.foldl BuildStep.apply (base (.str entityName))

variable {q : Query} {path : LinkPath}

theorem HangsTogether.modifyLink {change : Link → Link} (h : q.HangsTogether)
    (hchange : ∀ l, Link.find? path q.links = some l → Link.Undisturbed change l) :
    (q.modifyLink path change).HangsTogether :=
  ⟨h.base, h.links.modify hchange⟩

theorem HangsTogether.addLink {toEntity : Json} (h : q.HangsTogether) (fromAttr toAttr : Json)
    (join : JoinKind) (htarget : toEntity.IsText) :
    (q.addLink path toEntity fromAttr toAttr join).1.HangsTogether := by
  unfold Query.addLink
  split
  · rename_i parent hparent
    refine h.modifyLink fun l hl attachedTo hlink hbelow ↦ ?_
    obtain rfl := Option.some.inj (hparent.symm.trans hl)
    refine ⟨⟨hlink.source, hlink.target, hlink.called⟩, ?_⟩
    exact hbelow.append (Link.hangsFrom_simple fromAttr toAttr join htarget) nofun
  · exact ⟨h.base, h.links.append (Link.hangsFrom_simple fromAttr toAttr join htarget) nofun⟩

/-- No step of building tears a query apart. -/
theorem HangsTogether.apply (h : q.HangsTogether) (step : BuildStep) :
    (step.apply q).HangsTogether := by
  cases step with
  | addLink path toEntity fromAttr toAttr join => exact h.addLink _ _ join ⟨toEntity, rfl⟩
  | setAlias path name =>
      refine h.modifyLink fun l _ attachedTo hlink hbelow ↦
        ⟨⟨hlink.source, hlink.target, ?_⟩, hbelow⟩
      cases name with
      | none => exact .inl rfl
      | some s => exact .inr ⟨s, rfl⟩
  | setColumns path columns =>
      exact h.modifyLink fun l _ attachedTo hlink hbelow ↦
        ⟨⟨hlink.source, hlink.target, hlink.called⟩, hbelow⟩
  | modifyCriteria path change =>
      simp only [BuildStep.apply, Query.modifyCriteria]
      split
      · exact ⟨h.base, h.links⟩
      · exact h.modifyLink fun l _ attachedTo hlink hbelow ↦
          ⟨⟨hlink.source, hlink.target, hlink.called⟩, hbelow⟩
  | addOrder | selectColumns | setTopCount => exact ⟨h.base, h.links⟩

theorem build_hangsTogether (entityName : String) (steps : List BuildStep) :
    (build entityName steps).HangsTogether := by
  have hfold : ∀ q : Query, q.HangsTogether → (steps.foldl BuildStep.apply q).HangsTogether := by
    induction steps with
    | nil => exact fun _ ↦ id
    | cons step steps ih => exact fun q hq ↦ ih (step.apply q) (hq.apply step)
  exact hfold _ ⟨⟨entityName, rfl⟩, nofun⟩

end Query

end OrgService
