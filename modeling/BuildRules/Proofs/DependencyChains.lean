import BuildRules.Proofs.ContextConfigurations

/-!
# Chains of dependencies

A target is analyzed in the configuration to which the transition leads, and from there it
asks for its own dependencies. So along a chain of dependencies one configuration comes
out of the other. A chain stays in a configuration exactly when each of its dependencies
does. Nothing leads out of a configuration that is marked for the host, whatever the
dependencies are.

That the configuration was asked for as that of the host is not enough. Nobody checks
whether the host configuration of the transitions is marked for the host, and if it is
not, a data dependency leads from it to the data configuration. No other dependency leads
out of it, and this one does not where the two configurations are the same or where data
stays where it is.
-/

set_option autoImplicit false

namespace BuildRules

/-- One dependency of a chain: the rule that asks, the attribute through which it does so, and the
rule or generated file for which it asks. -/
structure DependencyEdge where
  rule : Rule
  attr : Attribute
  target : Target
  notSource : target.isInputFile = false

namespace StandardTransitions

/-- A chain of dependencies leads from one configuration to another one. Each dependency is asked
for in the configuration to which the one before it has led. -/
inductive Leads (transitions : StandardTransitions) :
    Configuration → List DependencyEdge → Configuration → Prop
  | nil (configuration : Configuration) : Leads transitions configuration [] configuration
  | cons {source middle last : Configuration} {edge : DependencyEdge} {rest : List DependencyEdge}
      (step : transitions.configure edge.rule source edge.attr edge.target = some middle)
      (later : Leads transitions middle rest last) : Leads transitions source (edge :: rest) last

/-- The chain is in the configuration after each of its dependencies. -/
def Stays (transitions : StandardTransitions) (configuration : Configuration)
    (edges : List DependencyEdge) : Prop :=
  ∀ front, front <+: edges → ∀ reached, transitions.Leads configuration front reached →
    reached = configuration

/-- Every chain stays where it is from the moment at which it has come to a configuration that is
marked for the host or was reached through an attribute that asks for the host. -/
def HostAbsorbs (transitions : StandardTransitions) : Prop :=
  ∀ (start reached : Configuration) (before after : List DependencyEdge),
    transitions.Leads start before reached →
      (reached.isHost = true ∨
        ∃ earlier edge, before = earlier ++ [edge] ∧ edge.attr.transition = .host) →
      transitions.Stays reached after

variable {transitions : StandardTransitions} {source last : Configuration} {edge : DependencyEdge}
  {first rest : List DependencyEdge}

/-! ## Runs along a chain -/

/-- A dependency leads to the configuration that follows by the transition of its attribute. -/
theorem configure_edge (transitions : StandardTransitions) (source : Configuration)
    (edge : DependencyEdge) :
    transitions.configure edge.rule source edge.attr edge.target =
      some (transitions.next source edge.attr.transition) := by
  rw [configure_eq, edge.notSource]
  rfl

/-- A chain without dependencies leads nowhere else. -/
theorem leads_nil_iff : transitions.Leads source [] last ↔ last = source := by
  constructor
  · rintro ⟨⟩
    rfl
  · rintro rfl
    exact .nil _

/-- A chain leads where its rest leads from the configuration after its first dependency. -/
theorem leads_cons_iff :
    transitions.Leads source (edge :: rest) last ↔
      transitions.Leads (transitions.next source edge.attr.transition) rest last := by
  constructor
  · rintro (_ | ⟨step, later⟩)
    rw [configure_edge, Option.some.injEq] at step
    exact step ▸ later
  · intro later
    exact .cons (configure_edge transitions source edge) later

/-- A chain can be cut anywhere: the second part begins where the first one ends. -/
theorem leads_append_iff :
    transitions.Leads source (first ++ rest) last ↔
      ∃ middle, transitions.Leads source first middle ∧ transitions.Leads middle rest last := by
  induction first generalizing source with
  | nil => simp [leads_nil_iff]
  | cons edge first ih => simp only [List.cons_append, leads_cons_iff, ih]

/-- A chain leads where its last dependency leads from the configuration before it. -/
theorem leads_append_singleton_iff :
    transitions.Leads source (first ++ [edge]) last ↔
      ∃ middle, transitions.Leads source first middle ∧
        last = transitions.next middle edge.attr.transition := by
  simp only [leads_append_iff, leads_cons_iff, leads_nil_iff]

/-- Every chain leads somewhere from everywhere. -/
theorem exists_leads (transitions : StandardTransitions) (source : Configuration)
    (edges : List DependencyEdge) : ∃ last, transitions.Leads source edges last := by
  induction edges generalizing source with
  | nil => exact ⟨source, .nil source⟩
  | cons edge rest ih =>
    obtain ⟨last, later⟩ := ih (transitions.next source edge.attr.transition)
    exact ⟨last, leads_cons_iff.mpr later⟩

/-! ## Chains that stay where they are -/

/-- A chain stays in a configuration exactly when none of its dependencies leads out of it. -/
theorem stays_iff {configuration : Configuration} {edges : List DependencyEdge} :
    transitions.Stays configuration edges ↔
      ∀ edge ∈ edges, transitions.next configuration edge.attr.transition = configuration := by
  constructor
  · intro stays edge member
    obtain ⟨front, back, rfl⟩ := List.append_of_mem member
    obtain ⟨reached, leads⟩ := transitions.exists_leads configuration front
    have whole : front ++ edge :: back = (front ++ [edge]) ++ back := by simp
    rw [whole] at stays
    -- The dependency is asked for in the configuration itself, since the chain was in it so far.
    have here : reached = configuration :=
      stays front ((List.prefix_append _ _).trans (List.prefix_append _ _)) reached leads
    have goesOn : transitions.Leads configuration (front ++ [edge])
        (transitions.next configuration edge.attr.transition) :=
      leads_append_singleton_iff.mpr ⟨reached, leads, by rw [here]⟩
    exact stays (front ++ [edge]) (List.prefix_append _ _) _ goesOn
  · intro each front isFront
    obtain ⟨back, rfl⟩ := isFront
    have eachFront : ∀ edge ∈ front,
        transitions.next configuration edge.attr.transition = configuration :=
      fun edge member => each edge (List.mem_append_left _ member)
    clear each
    induction front with
    | nil => exact fun reached leads => leads_nil_iff.mp leads
    | cons edge rest ih =>
      rw [List.forall_mem_cons] at eachFront
      intro reached leads
      rw [leads_cons_iff, eachFront.1] at leads
      exact ih eachFront.2 reached leads

/-- Without a transition the configuration stays. -/
theorem next_none (transitions : StandardTransitions) (configuration : Configuration) :
    transitions.next configuration .none = configuration := by
  unfold next
  split <;> rfl

/-- The transition to the host leads from the host configuration to itself. -/
theorem next_host_host (transitions : StandardTransitions) :
    transitions.next transitions.host .host = transitions.host := by
  unfold next
  split <;> rfl

/-- The transition for data leads out of a configuration exactly when this is not marked for the
host and there is a data configuration other than it. -/
theorem next_data_eq_self_iff {configuration : Configuration} :
    transitions.next configuration .data = configuration ↔
      configuration.isHost = true ∨ ∀ data ∈ transitions.data, data = configuration := by
  unfold next
  cases configuration.isHost <;> cases transitions.data <;> simp

/-- Where a chain has come through an attribute that asks for the host is marked for the host or is
the host configuration of the transitions. -/
theorem isHost_or_eq_host_of_leads {earlier : List DependencyEdge}
    (asks : edge.attr.transition = .host)
    (reached : transitions.Leads source (earlier ++ [edge]) last) :
    last.isHost = true ∨ last = transitions.host := by
  obtain ⟨middle, -, rfl⟩ := leads_append_singleton_iff.mp reached
  rw [asks]
  cases host : middle.isHost with
  | true => exact .inl (by rw [next_of_isHost _ host, host])
  | false => exact .inr (transitions.next_of_mode host .host)

/-- Asking for the host once more leads to the same place. -/
theorem next_host_of_leads {earlier : List DependencyEdge} (asks : edge.attr.transition = .host)
    (reached : transitions.Leads source (earlier ++ [edge]) last) :
    transitions.next last .host = last := by
  rcases isHost_or_eq_host_of_leads asks reached with marked | rfl
  · exact next_of_isHost _ marked _
  · exact transitions.next_host_host

/-- A configuration for the host is kept by every chain of dependencies. -/
theorem stays_of_isHost {configuration : Configuration} (host : configuration.isHost = true)
    (edges : List DependencyEdge) : transitions.Stays configuration edges :=
  stays_iff.mpr fun edge _ => next_of_isHost _ host edge.attr.transition

/-- From a configuration out of which neither transition but the one for data leads, a chain can
leave only by a data dependency. -/
theorem stays_iff_of_next_host {configuration : Configuration} {edges : List DependencyEdge}
    (host : transitions.next configuration .host = configuration) :
    transitions.Stays configuration edges ↔
      configuration.isHost = true ∨ (∀ data ∈ transitions.data, data = configuration) ∨
        ∀ edge ∈ edges, edge.attr.transition ≠ .data := by
  rw [stays_iff, ← or_assoc, ← next_data_eq_self_iff]
  constructor
  · intro each
    by_cases data : ∃ edge ∈ edges, edge.attr.transition = .data
    · obtain ⟨edge, member, isData⟩ := data
      exact .inl (isData ▸ each edge member)
    · push Not at data
      exact .inr data
  · intro stays edge member
    cases transition : edge.attr.transition with
    | none => exact transitions.next_none configuration
    | host => exact host
    | data => exact stays.resolve_right fun noData => noData edge member transition

/-- Every chain stays in a configuration that is marked for the host. Where it has come through an
attribute that asks for the host it stays exactly if this configuration is marked for the host, or
there is no other one for data, or no later dependency is one of data. -/
theorem stays_in_host_iff (transitions : StandardTransitions) {start reached : Configuration}
    {before : List DependencyEdge} (leads : transitions.Leads start before reached)
    (after : List DependencyEdge) :
    (∃ last, transitions.Leads reached after last) ∧
    (reached.isHost = true → transitions.Stays reached after) ∧
    ∀ earlier edge, before = earlier ++ [edge] → edge.attr.transition = .host →
      (transitions.Stays reached after ↔
        reached.isHost = true ∨ (∀ data ∈ transitions.data, data = reached) ∨
          ∀ later ∈ after, later.attr.transition ≠ .data) := by
  refine ⟨transitions.exists_leads reached after, ?_, ?_⟩
  · intro host
    exact stays_of_isHost host after
  · rintro earlier edge rfl asks
    exact stays_iff_of_next_host (next_host_of_leads asks leads)

end StandardTransitions

namespace Sample

/-- A library that depends on a library. -/
def dependency (transition : Transition) : DependencyEdge where
  rule := library
  attr := { name := "deps", type := .labelList, transition := transition }
  target := .rule library
  notSource := rfl

def markedHost : Configuration := { configuration "host" with isHost := true }

def markedTransitions : StandardTransitions := ⟨markedHost, some (configuration "data")⟩

end Sample

namespace StandardTransitions

/-- A tool stays in the host configuration with its data, if this is marked for the host. -/
theorem stays_in_host_iff_tool :
    Sample.markedTransitions.Leads (Sample.configuration "target") [Sample.dependency .host]
        Sample.markedHost ∧
      Sample.markedTransitions.Stays Sample.markedHost
        [Sample.dependency .none, Sample.dependency .data] := by
  have leads : Sample.markedTransitions.Leads (Sample.configuration "target")
      [Sample.dependency .host] Sample.markedHost := .cons rfl (.nil _)
  have settled := Sample.markedTransitions.stays_in_host_iff leads
    [Sample.dependency .none, Sample.dependency .data]
  exact ⟨leads, (settled.2.2 [] _ rfl rfl).mpr (.inl rfl)⟩

variable {transitions : StandardTransitions}

/-- The transitions keep every chain for the host there exactly if their host configuration is
marked for the host or there is no other one for data. -/
theorem hostAbsorbs_iff :
    transitions.HostAbsorbs ↔
      transitions.host.isHost = true ∨ ∀ data ∈ transitions.data, data = transitions.host := by
  constructor
  · intro absorbs
    have stays := absorbs transitions.host transitions.host [Sample.dependency .host]
      [Sample.dependency .data]
      (leads_cons_iff.mpr (leads_nil_iff.mpr transitions.next_host_host.symm))
      (.inr ⟨[], Sample.dependency .host, rfl, rfl⟩)
    exact next_data_eq_self_iff.mp (stays_iff.mp stays _ (List.mem_singleton.mpr rfl))
  · intro marked start reached before after leads host
    rcases host with host | ⟨earlier, edge, rfl, asks⟩
    · exact stays_of_isHost host after
    · rw [stays_iff_of_next_host (next_host_of_leads asks leads)]
      rcases isHost_or_eq_host_of_leads asks leads with host | rfl
      · exact .inl host
      · exact marked.imp_right .inl

/-- A host configuration that is not marked for the host is left for that of data. -/
theorem not_hostAbsorbs_unmarked :
    ¬ HostAbsorbs ⟨Sample.configuration "host", some (Sample.configuration "data")⟩ := by
  intro absorbs
  have stays := absorbs (Sample.configuration "target") (Sample.configuration "host")
    [Sample.dependency .host] [Sample.dependency .data] (.cons rfl (.nil _))
    (.inr ⟨[], Sample.dependency .host, rfl, rfl⟩)
  have left := stays [Sample.dependency .data] (List.prefix_refl _) (Sample.configuration "data")
    (.cons rfl (.nil _))
  exact absurd (congrArg Configuration.name left) (by decide)

end StandardTransitions

end BuildRules
