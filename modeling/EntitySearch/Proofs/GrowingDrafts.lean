import EntitySearch.Proofs.Snippet.Remainder
import EntitySearch.Proofs.WellFormedEntities

/-!
# Descriptions that go on

Steps that follow put fields behind those that are described and leave the table alone.  So the
first fault of a description stays the first one, whatever follows it, and an entity keeps its
fields, in their places and as they were declared, when its description goes on.  Of the join
condition, the grouping and the flag for distinct rows the last step of a kind decides.
-/

namespace EntitySearch

namespace EntityDraft

variable {draft before after last : EntityDraft} {error : EntityError}

/-! ## One step and many -/

/-- The second description has what the first one has, and maybe further fields behind it. -/
structure GoesOn (before after : EntityDraft) : Prop where
  table : after.table = before.table
  fields : before.fields <+: after.fields

theorem GoesOn.trans (first : before.GoesOn after) (second : after.GoesOn last) :
    before.GoesOn last where
  table := second.table.trans first.table
  fields := first.fields.trans second.fields

theorem goesOn_step (draft : EntityDraft) (step : Step) : draft.GoesOn (draft.step step) := by
  cases step with
  | field name mapping => exact ⟨rfl, List.prefix_append _ _⟩
  | joinCondition text => exact ⟨rfl, List.prefix_rfl⟩
  | grouping text => exact ⟨rfl, List.prefix_rfl⟩
  | distinct distinct => exact ⟨rfl, List.prefix_rfl⟩

theorem goesOn_run (draft : EntityDraft) (steps : List Step) : draft.GoesOn (draft.run steps) := by
  induction steps generalizing draft with
  | nil => exact ⟨rfl, List.prefix_rfl⟩
  | cons step steps induction => exact (draft.goesOn_step step).trans (induction (draft.step step))

/-! ## Faults -/

theorem GoesOn.described (goesOn : before.GoesOn after) : before.described <+: after.described :=
  goesOn.fields.map _

/-- Nothing that follows comes before the first fault. -/
theorem FirstFault.goesOn (fault : before.FirstFault error) (goesOn : before.GoesOn after) :
    after.FirstFault error := by
  cases fault with
  | table blank => exact .table (by rw [goesOn.table, blank])
  | @field earlier later field _ table split distinct repeats =>
      obtain ⟨further, whole⟩ := goesOn.described
      have splitAfter : after.described = earlier ++ field :: (later ++ further) := by
        rw [← whole, split, List.append_assoc, List.cons_append]
      exact .field (by rw [goesOn.table, table]) splitAfter distinct repeats

/-! ## What a step decides -/

/-- The clause of a text that is not blank. -/
theorem snippet?_eq (text : String) :
    snippet? text = if Text.isBlank text then none else some (.ofText text) := by
  rw [snippet?, Snippet.isBlank_ofText]

namespace Step

/-- The join condition that a step decides on; blank text is none. -/
def joinCondition? : Step → Option (Option Snippet)
  | .joinCondition text => some (if Text.isBlank text then none else some (.ofText text))
  | _ => none

/-- The grouping that a step decides on; blank text is none. -/
def grouping? : Step → Option (Option Snippet)
  | .grouping text => some (if Text.isBlank text then none else some (.ofText text))
  | _ => none

/-- Whether a step decides on distinct rows. -/
def distinct? : Step → Option Bool
  | .distinct flag => some flag
  | _ => none

/-- A value after some steps: what the last of them that decides on one decides, and the value
before them when none does. -/
inductive Settles {α : Type} (decides : Step → Option α) (steps : List Step) (before : α) :
    α → Prop where
  | decided {earlier later : List Step} {step : Step} {value : α}
      (split : steps = earlier ++ step :: later) (decision : decides step = some value)
      (final : ∀ other ∈ later, decides other = none) : Settles decides steps before value
  | kept (undecided : ∀ step ∈ steps, decides step = none) : Settles decides steps before before

end Step

/-- What each step replaces by its decision is settled by the last decision. -/
theorem settles_run {α : Type} (decides : Step → Option α) (read : EntityDraft → α)
    (read_step : ∀ draft step, read (draft.step step) = (decides step).getD (read draft))
    (draft : EntityDraft) (steps : List Step) :
    Step.Settles decides steps (read draft) (read (draft.run steps)) := by
  induction steps generalizing draft with
  | nil => exact .kept (by simp)
  | cons step steps induction =>
      have run : draft.run (step :: steps) = (draft.step step).run steps := rfl
      have settled := induction (draft.step step)
      rw [run]
      generalize read ((draft.step step).run steps) = value at settled ⊢
      cases settled with
      | decided split decision final =>
          exact .decided (by rw [split, List.cons_append]) decision final
      | kept undecided =>
          rw [read_step]
          cases decision : decides step with
          | none => exact .kept (List.forall_mem_cons.mpr ⟨decision, undecided⟩)
          | some value => exact .decided (List.nil_append _).symm decision undecided

theorem settles_joinCondition? (draft : EntityDraft) (steps : List Step) :
    Step.Settles Step.joinCondition? steps (draft.joinCondition?.bind snippet?)
      ((draft.run steps).joinCondition?.bind snippet?) := by
  refine settles_run _ (fun draft => draft.joinCondition?.bind snippet?) ?_ draft steps
  intro draft step
  cases step with
  | joinCondition text => exact snippet?_eq text
  | field | grouping | distinct => rfl

theorem settles_grouping? (draft : EntityDraft) (steps : List Step) :
    Step.Settles Step.grouping? steps (draft.grouping?.bind snippet?)
      ((draft.run steps).grouping?.bind snippet?) := by
  refine settles_run _ (fun draft => draft.grouping?.bind snippet?) ?_ draft steps
  intro draft step
  cases step with
  | grouping text => exact snippet?_eq text
  | field | joinCondition | distinct => rfl

theorem settles_distinct (draft : EntityDraft) (steps : List Step) :
    Step.Settles Step.distinct? steps draft.distinct (draft.run steps).distinct := by
  refine settles_run _ EntityDraft.distinct ?_ draft steps
  intro draft step
  cases step <;> rfl

/-! ## Entities -/

/-- What becomes of an entity when its description goes on. -/
structure Grows (steps : List Step) (before after : Entity) : Prop where
  names : before.names <+: after.names
  kept : ∀ name ∈ before.names,
    after.label? name = before.label? name ∧ after.type? name = before.type? name ∧
      after.select? name = before.select? name ∧ after.column? name = before.column? name
  joinCondition? : Step.Settles Step.joinCondition? steps before.joinCondition?
    after.joinCondition?
  grouping? : Step.Settles Step.grouping? steps before.grouping? after.grouping?
  distinct : Step.Settles Step.distinct? steps before.distinct after.distinct

/-- A description that fails goes on to fail alike, and an entity grows by what is added. -/
theorem build_run (draft : EntityDraft) (steps : List Step) :
    (∀ error, draft.build = .error error → (draft.run steps).build = .error error) ∧
      ∀ before after, draft.build = .ok before → (draft.run steps).build = .ok after →
        Grows steps before after := by
  have goesOn := draft.goesOn_run steps
  constructor
  · intro error failed
    exact build_eq_error_iff.mpr ((build_eq_error_iff.mp failed).goesOn goesOn)
  · intro before after built builtAfter
    have carries := carries_of_build built
    have carriesAfter := carries_of_build builtAfter
    have fields : before.fields.toList <+: after.fields.toList := by
      rw [carries.fields, carriesAfter.fields]
      exact goesOn.described
    refine
      { names := fields.map _
        kept := ?_
        joinCondition? := ?_
        grouping? := ?_
        distinct := ?_ }
    · intro name known
      obtain ⟨field, member, rfl⟩ := List.mem_map.mp known
      have found : before.field? field.name = some field := Entity.field?_name member
      have foundAfter : after.field? field.name = some field :=
        Entity.field?_name (fields.subset member)
      simp only [Entity.label?, Entity.type?, Entity.select?, Entity.column?, found, foundAfter,
        and_self]
    · rw [carries.joinCondition?, carriesAfter.joinCondition?]
      exact draft.settles_joinCondition? steps
    · rw [carries.grouping?, carriesAfter.grouping?]
      exact draft.settles_grouping? steps
    · rw [carries.distinct, carriesAfter.distinct]
      exact draft.settles_distinct steps

/-- A join condition that is taken back, a grouping, a further field and distinct rows. -/
def furtherSteps : List Step :=
  [.joinCondition "o.tenant = :tenant", .field "total" (.selected "o.total" .decimal),
    .grouping "o.id", .joinCondition " ", .distinct true]

/-- The orders grow by the total; under a name that is used twice they are refused before and after
the steps. -/
theorem build_run_furtherSteps :
    (∃ before after, orderDraft.build = .ok before ∧
        (orderDraft.run furtherSteps).build = .ok after ∧ Grows furtherSteps before after) ∧
      (orderDraft.addField "id" (.unmapped .text)).build = .error (.repeatedField "id") ∧
      ((orderDraft.addField "id" (.unmapped .text)).run furtherSteps).build =
        .error (.repeatedField "id") := by
  obtain ⟨before, built⟩ : ∃ before, orderDraft.build = .ok before :=
    exists_build_iff.mpr ⟨by decide +kernel, by decide, by decide⟩
  obtain ⟨after, builtAfter⟩ : ∃ after, (orderDraft.run furtherSteps).build = .ok after :=
    exists_build_iff.mpr ⟨by decide +kernel, by decide, by decide⟩
  have split : (orderDraft.addField "id" (.unmapped .text)).described =
      orderDraft.described ++ [Field.ofMapping "id" (.unmapped .text)] := rfl
  have distinct : FieldList.Distinct orderDraft.described :=
    distinct_described_iff.mpr ⟨by decide, by decide⟩
  have refused : (orderDraft.addField "id" (.unmapped .text)).build =
      .error (.repeatedField "id") :=
    build_eq_error_iff.mpr (.field (by decide +kernel) split distinct (.name (by decide)))
  exact ⟨⟨before, after, built, builtAfter,
    (build_run orderDraft furtherSteps).2 before after built builtAfter⟩, refused,
    (build_run _ furtherSteps).1 _ refused⟩

end EntityDraft

end EntitySearch
