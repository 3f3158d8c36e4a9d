import Keyspace.Proofs.Schema.Names
import Keyspace.Proofs.Template.PublishedText
import Keyspace.Proofs.Template.RootNames

/-!
# What generated resources refer to

The resources of tables refer to keys and to nothing of the nested stacks; the resources of a
function refer to its dead letter queue and to the parameters it is bound to.
-/
namespace Keyspace.Template

open Json

variable {scope : Reference → Prop}

section Root

/-- References that every template resolves. -/
def KnowsPseudo (scope : Reference → Prop) : Prop :=
  ∀ name, (Reference.ref name).isPseudo = true → scope (.ref name)

theorem refersWithin_keyResource (hpseudo : KnowsPseudo scope) (t : Table) :
    RefersWithin scope (keyResource t).properties := by
  have hvariables : subVariables "arn:$\x7bAWS::Partition\x7d:iam::$\x7bAWS::AccountId\x7d:root" =
      ["AWS::Partition", "AWS::AccountId"] := by decide
  have hpartition : scope (Reference.ofVariable "AWS::Partition") := hpseudo _ (by decide)
  have haccount : scope (Reference.ofVariable "AWS::AccountId") := hpseudo _ (by decide)
  simp [keyResource, refersWithin_object_iff, intrinsicKeys, hvariables, hpartition, haccount]

theorem refersWithin_eventBus (hpseudo : KnowsPseudo scope) :
    RefersWithin scope eventBus.properties := by
  have hvariables : subVariables "$\x7bAWS::StackName\x7d-changes" = ["AWS::StackName"] := by decide
  have hstack : scope (Reference.ofVariable "AWS::StackName") := hpseudo _ (by decide)
  refine refersWithin_obj (fun member hmember => ?_) fun member hmember => ?_
  · cases hmember
    decide
  · rw [List.mem_singleton.mp hmember]
    simp [hvariables, hstack]

theorem refersWithin_keySchema (partitionKey : KeyPart) (sortKey : Option KeyPart) :
    RefersWithin scope (keySchema partitionKey sortKey) := by
  have helement (part : KeyPart) (role : String) : RefersWithin scope (keyElement part role) := by
    simp [keyElement, refersWithin_object_iff, intrinsicKeys]
  cases sortKey <;> simp [keySchema, helement]

theorem refersWithin_attributeDefinitions (b : Blueprint) (t : Table) :
    RefersWithin scope (attributeDefinitions b t) := by
  unfold attributeDefinitions
  rw [refersWithin_arr, List.forall_mem_map]
  intro entry _
  simp [refersWithin_object_iff, intrinsicKeys]

theorem refersWithin_globalIndex {index : SecondaryIndex} {value : Json}
    (h : globalIndexJson? index = some value) : RefersWithin scope value := by
  cases index with
  | «local» => cases h
  | global name partitionKey sortKey projection =>
    cases h
    simp [indexProjection, refersWithin_object_iff, intrinsicKeys, refersWithin_keySchema]

theorem refersWithin_localIndex {t : Table} {index : SecondaryIndex} {value : Json}
    (h : localIndexJson? t index = some value) : RefersWithin scope value := by
  cases index with
  | global => cases h
  | «local» name sortKey projection =>
    cases h
    simp [indexProjection, refersWithin_object_iff, intrinsicKeys, refersWithin_keySchema]

theorem memberWithin_listUnlessEmpty {name : String} (hname : name ∉ intrinsicKeys)
    {elements : List Json} (h : ∀ x ∈ elements, RefersWithin scope x) :
    ∀ member ∈ listUnlessEmpty name elements, MemberWithin scope member := by
  unfold listUnlessEmpty
  split
  · exact fun member hmember => by cases hmember
  · intro member hmember
    rw [List.mem_singleton.mp hmember]
    exact ⟨hname, (refersWithin_arr elements).mpr h⟩

/-- A table refers to its key only. -/
theorem refersWithin_tableResource {b : Blueprint} {t : Table}
    (hkey : scope (.ref (keyLogicalId t.name))) :
    RefersWithin scope (tableResource b t).properties := by
  refine refersWithin_object fun member hmember => ?_
  simp only [List.mem_append] at hmember
  rcases hmember with (((hmember | hmember) | hmember) | hmember) | hmember
  · revert member
    simp [MemberWithin, intrinsicKeys, refersWithin_object_iff, refersWithin_attributeDefinitions,
      refersWithin_keySchema, hkey]
  · refine memberWithin_listUnlessEmpty (by decide) (fun x hx => ?_) member hmember
    obtain ⟨index, -, hindex⟩ := List.mem_filterMap.mp hx
    exact refersWithin_globalIndex hindex
  · refine memberWithin_listUnlessEmpty (by decide) (fun x hx => ?_) member hmember
    obtain ⟨index, -, hindex⟩ := List.mem_filterMap.mp hx
    exact refersWithin_localIndex hindex
  · split at hmember
    · rw [List.mem_singleton.mp hmember]
      simp [MemberWithin, intrinsicKeys, refersWithin_object_iff]
    · cases hmember
  · obtain ⟨name, -, rfl⟩ := Option.map_eq_some_iff.mp (Option.mem_toList.mp hmember)
    simp [MemberWithin, intrinsicKeys, refersWithin_object_iff]

end Root

section Function

theorem refersWithin_deadLetterQueue : RefersWithin scope deadLetterQueue.properties := by
  refine refersWithin_obj (fun member hmember => ?_) fun member hmember => ?_
  · cases hmember
    decide
  · rw [List.mem_singleton.mp hmember]
    exact refersWithin_int _

/-- A template may refer to its dead letter queue. -/
structure KnowsQueue (scope : Reference → Prop) : Prop where
  ref : scope (.ref deadLetterQueueId)
  getAtt : ∀ attributeName, scope (.getAtt deadLetterQueueId attributeName)

theorem refersWithin_deadLetterPolicy (hqueue : KnowsQueue scope) :
    RefersWithin scope deadLetterPolicy.properties := by
  simp [deadLetterPolicy, refersWithin_object_iff, intrinsicKeys, hqueue.ref, hqueue.getAtt]

/-- Where the variables of a function are set. -/
def variablesPath : List String := ["Environment", "Variables"]

theorem memberWithin_functionMembers (config : Config) (artifact : String) (sizing : Sizing) :
    ∀ member ∈ functionMembers config artifact sizing, MemberWithin scope member := by
  simp [functionMembers, MemberWithin, intrinsicKeys]

theorem key_functionMembers (config : Config) (artifact : String) (sizing : Sizing) :
    ∀ member ∈ functionMembers config artifact sizing, member.1 ≠ "Environment" := by
  simp [functionMembers]

/-- A dispatcher refers to its queue, the stream and the bus. -/
theorem plainAlong_dispatcherFunction (config : Config) (d : Dispatcher)
    (hqueue : KnowsQueue scope) (hstream : scope (.ref streamParameter))
    (hbus : scope (.ref eventBusParameter)) :
    PlainAlong scope variablesPath (dispatcherFunction config d).properties := by
  have hvariables : PlainAlong scope ["Variables"] (.object [
      ("Variables", .object [("EVENT_BUS_NAME", .ref eventBusParameter)])]) := by
    refine plainAlong_object ?_ ?_
    · simp [MemberWithin, intrinsicKeys, refersWithin_object_iff, hbus]
    · intro member hmember _
      rw [List.mem_singleton.mp hmember]
      refine isPlain_object ?_
      simp [MemberWithin, intrinsicKeys, hbus]
  have hevents : RefersWithin scope (dispatcherEvents d) := by
    simp [dispatcherEvents, refersWithin_object_iff, intrinsicKeys, hqueue.getAtt, hstream]
  refine plainAlong_object (List.forall_mem_append.mpr
    ⟨memberWithin_functionMembers config _ _, ?_⟩) (List.forall_mem_append.mpr ⟨?_, ?_⟩)
  · simp [MemberWithin, intrinsicKeys, refersWithin_object_iff, hqueue.getAtt, hbus, hevents]
  · exact fun member hmember hkey => absurd hkey (key_functionMembers config _ _ member hmember)
  · simp [hvariables]

/-- The source of events names the table's parameter, since a model's name has no dollar. -/
theorem refersWithin_eventSource {t : Table} {h : ChangeHandler}
    (hsource : Schema.IsReadableName h.source) (hname : IsParameterName (tableParameter t.name))
    (htable : scope (.ref (tableParameter t.name))) : RefersWithin scope (eventSource t h) := by
  have hdollar : '$' ∉ h.source.toList := fun hmem => absurd (hsource '$' hmem) (by decide)
  have htext : NamesOnly (· = tableParameter t.name)
      ("$\x7b" ++ tableParameter t.name ++ "\x7d." ++ h.source).toList := by
    have hwritten : ("$\x7b" ++ tableParameter t.name ++ "\x7d." ++ h.source).toList =
        Stacks.writtenVariable (tableParameter t.name) ++ ('.' :: h.source.toList) := by
      simp [Stacks.writtenVariable]
    rw [hwritten]
    exact NamesOnly.written rfl (NamesOnly.cons (by decide) (NamesOnly.of_plain hdollar))
  refine (refersWithin_sub _).mpr fun name hmem => ?_
  have hallowed (name : String) (hsame : name = tableParameter t.name) : IsParameterName name :=
    hsame ▸ hname
  rw [mem_subVariables hallowed htext name hmem, ofVariable_of_isParameterName hname]
  exact htable

/-- A handler refers to its queue, the bus and the tables it works on. -/
theorem plainAlong_handlerFunction (config : Config) {t : Table} {h : ChangeHandler}
    (hsource : Schema.IsReadableName h.source) (hname : IsParameterName (tableParameter t.name))
    (hqueue : KnowsQueue scope) (hbus : scope (.ref eventBusParameter))
    (htables : ∀ table ∈ handlerTables t h, scope (.ref (tableParameter table))) :
    PlainAlong scope variablesPath (handlerFunction config t h).properties := by
  have hown : scope (.ref (tableParameter t.name)) :=
    htables t.name (by simp [handlerTables])
  have hevents : RefersWithin scope (handlerEvents t h) := by
    simp [handlerEvents, refersWithin_object_iff, intrinsicKeys, hqueue.getAtt, hbus,
      refersWithin_eventSource hsource hname hown]
  have hpolicy {policy table : String} (hpolicy : policy ∉ intrinsicKeys)
      (htable : table ∈ handlerTables t h) : RefersWithin scope (tablePolicy policy table) := by
    have hrefers : RefersWithin scope (.object [("TableName", .ref (tableParameter table))]) := by
      simp [refersWithin_object_iff, intrinsicKeys, htables table htable]
    refine refersWithin_object fun member hmember => ?_
    rw [List.mem_singleton.mp hmember]
    exact ⟨hpolicy, hrefers⟩
  have hpolicies : ∀ x ∈ tablePolicies h, RefersWithin scope x := by
    intro x hx
    rcases List.mem_append.mp hx with hx | hx
    · obtain ⟨table, htable, rfl⟩ := List.mem_map.mp hx
      have htouched := (List.mem_filter.mp htable).1
      exact hpolicy (by decide) (by simp [handlerTables, htouched])
    · obtain ⟨table, htable, rfl⟩ := List.mem_map.mp hx
      have htouched := mem_sortedDistinct.mp htable
      exact hpolicy (by decide) (by simp [handlerTables, htouched])
  refine plainAlong_object (List.forall_mem_append.mpr
    ⟨memberWithin_functionMembers config _ _, ?_⟩) (List.forall_mem_append.mpr ⟨?_, ?_⟩)
  · simpa [MemberWithin, intrinsicKeys, hevents] using hpolicies
  · exact fun member hmember hkey => absurd hkey (key_functionMembers config _ _ member hmember)
  · simp

end Function

end Keyspace.Template
