import BeanGauge.Proofs.Integration.Exclusion
/-!
# The device of a metric

A metric belongs to the device that its tags name, by one of them or by several that are joined with
colons. Which tags count depends on the integration, and for some beans of a Tomcat server on the
tag that tells their type.
-/

namespace BeanGauge

/-- Whether a text is made of tags of a metric: all of them are there, and their values stand in
order with colons between them. -/
def Metric.Joins (m : Metric) (keys : List String) (text : String) : Prop :=
  ∃ values, List.Forall₂ (fun key value => m.tags.get? key = some value) keys values ∧
    ":".intercalate values = text

namespace Integration

/-- The tags that name the device of a Tomcat bean, by its type. -/
def tomcatDeviceTags : List (String × List String) :=
  [("ThreadPool", ["name"]), ("GlobalRequestProcessor", ["name"]), ("Cache", ["host", "path"]),
    ("JspMonitor", ["J2EEApplication", "J2EEServer", "WebModule"])]

/-- The device of a metric by its tags. The generic integration names none. -/
inductive HasDevice (m : Metric) : Integration → String → Prop
  | destination {d : String} : m.Joins ["BrokerName", "Destination"] d → HasDevice m .activemq d
  | broker {d : String} : m.tags.get? "Destination" = none → m.tags.get? "BrokerName" = some d →
      HasDevice m .activemq d
  | table {d : String} : m.Joins ["keyspace", "columnfamily"] d → HasDevice m .cassandra d
  | keyspace {d : String} : m.tags.get? "columnfamily" = none →
      m.tags.get? "keyspace" = some d → HasDevice m .cassandra d
  | core {d : String} : m.tags.get? "type" = some d → d ≠ "searcher" → HasDevice m .solr d
  | servlet {d : String} : m.tags.get? "j2eeType" = some "Servlet" →
      m.Joins ["J2EEApplication", "J2EEServer", "WebModule", "name"] d → HasDevice m .tomcat d
  | typed {d kind : String} {keys : List String} : m.tags.get? "j2eeType" ≠ some "Servlet" →
      m.tags.get? "type" = some kind → tomcatDeviceTags.lookup kind = some keys →
      m.Joins keys d → HasDevice m .tomcat d

variable {i : Integration} {m m' : Metric} {keys : List String} {key other d : String}

theorem joinedTags_eq_some_iff : joinedTags m keys = some d ↔ m.Joins keys d := by
  have hvalues : ∀ values, keys.mapM m.tag? = some values ↔
      List.Forall₂ (fun key value => m.tags.get? key = some value) keys values := by
    induction keys with
    | nil =>
      intro values
      rw [List.forall₂_nil_left_iff, List.mapM_nil]
      exact Option.some_inj.trans eq_comm
    | cons key keys ih =>
      intro values
      rw [List.mapM_cons, List.forall₂_cons_left_iff]
      simp only [Option.bind_eq_bind, Option.bind_eq_some_iff, ih]
      constructor
      · rintro ⟨value, hvalue, values', hvalues', h⟩
        cases h
        exact ⟨value, values', hvalue, hvalues', rfl⟩
      · rintro ⟨value, values', hvalue, hvalues', rfl⟩
        exact ⟨value, hvalue, values', hvalues', rfl⟩
  rw [joinedTags, Option.map_eq_some_iff]
  exact exists_congr fun values => and_congr_left' (hvalues values)

/-- Joined tags are missing exactly if one of the tags is. -/
theorem joinedTags_eq_none_iff :
    joinedTags m keys = none ↔ ∃ key ∈ keys, m.tags.get? key = none := by
  rw [joinedTags, Option.map_eq_none_iff]
  induction keys with
  | nil => simp
  | cons key keys ih =>
    rw [List.mapM_cons, List.exists_mem_cons_iff, ← ih]
    cases htag : m.tags.get? key <;> cases keys.mapM m.tag? <;> simp [Metric.tag?, htag]

/-- A single key gives its tag. -/
theorem joinedTags_singleton : joinedTags m [key] = m.tag? key := by
  cases htag : m.tags.get? key <;> simp [joinedTags, Metric.tag?, htag]

/-- Two tags, or the first alone where the second is missing. -/
theorem joinedTags_or_iff :
    (joinedTags m [key, other] <|> m.tag? key) = some d ↔
      m.Joins [key, other] d ∨ m.tags.get? other = none ∧ m.tags.get? key = some d := by
  have hmissing : ∀ value, m.tags.get? key = some value →
      (joinedTags m [key, other] = none ↔ m.tags.get? other = none) := by
    intro value hvalue
    simp [joinedTags_eq_none_iff, hvalue]
  rw [Option.orElse_eq_orElse, Option.orElse_eq_or, Option.or_eq_some_iff, joinedTags_eq_some_iff]
  exact or_congr_right (and_congr_left fun hvalue => hmissing d hvalue)

theorem device_activemq_iff : activemq.device m = some d ↔ HasDevice m .activemq d := by
  show (joinedTags m ["BrokerName", "Destination"] <|> m.tag? "BrokerName") = some d ↔ _
  rw [joinedTags_or_iff]
  constructor
  · rintro (h | ⟨hnone, h⟩)
    · exact .destination h
    · exact .broker hnone h
  · intro h
    cases h with
    | destination h => exact .inl h
    | broker hnone h => exact .inr ⟨hnone, h⟩

theorem device_cassandra_iff : cassandra.device m = some d ↔ HasDevice m .cassandra d := by
  show (joinedTags m ["keyspace", "columnfamily"] <|> m.tag? "keyspace") = some d ↔ _
  rw [joinedTags_or_iff]
  constructor
  · rintro (h | ⟨hnone, h⟩)
    · exact .table h
    · exact .keyspace hnone h
  · intro h
    cases h with
    | table h => exact .inl h
    | keyspace hnone h => exact .inr ⟨hnone, h⟩

theorem device_solr_iff : solr.device m = some d ↔ HasDevice m .solr d := by
  show (m.tag? "type").filter (· != "searcher") = some d ↔ _
  rw [Option.filter_eq_some_iff, bne_iff_ne]
  constructor
  · exact fun h => .core h.1 h.2
  · intro h
    cases h with
    | core h hne => exact ⟨h, hne⟩

/-- Beans of a Tomcat server that are no servlets are told apart by their type. -/
theorem device_tomcat_eq : tomcat.device m =
    if m.tags.get? "j2eeType" = some "Servlet" then
      joinedTags m ["J2EEApplication", "J2EEServer", "WebModule", "name"]
    else (m.tags.get? "type").bind fun kind =>
      (tomcatDeviceTags.lookup kind).bind (joinedTags m) := by
  simp only [device, Metric.tag?]
  refine if_congr Iff.rfl rfl ?_
  cases m.tags.get? "type" with
  | none => rfl
  | some kind =>
    by_cases hknown : kind ∈ tomcatDeviceTags.map Prod.fst
    · simp only [tomcatDeviceTags, List.map_cons, List.map_nil, List.mem_cons, List.not_mem_nil,
        or_false] at hknown
      rcases hknown with rfl | rfl | rfl | rfl
      · exact joinedTags_singleton.symm
      · exact joinedTags_singleton.symm
      · rfl
      · rfl
    · have hlookup : tomcatDeviceTags.lookup kind = none := by
        rw [List.lookup_eq_none_iff]
        intro entry hentry
        exact bne_iff_ne.2 fun heq => hknown (heq ▸ List.mem_map_of_mem hentry)
      simp only [tomcatDeviceTags, List.map_cons, List.map_nil, List.mem_cons, List.not_mem_nil,
        or_false, not_or] at hknown
      simp [hlookup, hknown]

theorem device_tomcat_iff : tomcat.device m = some d ↔ HasDevice m .tomcat d := by
  rw [device_tomcat_eq]
  split
  · rename_i hservlet
    rw [joinedTags_eq_some_iff]
    constructor
    · exact .servlet hservlet
    · intro h
      cases h with
      | servlet _ h => exact h
      | typed hne => exact absurd hservlet hne
  · rename_i hservlet
    simp only [Option.bind_eq_some_iff, joinedTags_eq_some_iff]
    constructor
    · rintro ⟨kind, hkind, keys, hkeys, h⟩
      exact .typed hservlet hkind hkeys h
    · intro h
      cases h with
      | servlet h => exact absurd h hservlet
      | typed _ hkind hkeys h => exact ⟨_, hkind, _, hkeys, h⟩

theorem device_eq_some_iff : i.device m = some d ↔ HasDevice m i d := by
  cases i with
  | activemq => exact device_activemq_iff
  | cassandra => exact device_cassandra_iff
  | jmx filters => exact ⟨nofun, nofun⟩
  | solr => exact device_solr_iff
  | tomcat => exact device_tomcat_iff

/-- Nothing but the tags of a metric tells its device. -/
theorem device_congr (htags : m.tags = m'.tags) : i.device m = i.device m' := by
  have htag : m.tag? = m'.tag? := funext fun key => congrArg (·.get? key) htags
  cases i <;> simp only [device, joinedTags, htag]

/-- A metric names the device that its own tags tell. -/
theorem device_of_wrap {excluded : List String} {bean leaf : String} {value : Float}
    (h : i.wrap excluded bean leaf value = .ok m) : m.device = some d ↔ HasDevice m i d := by
  obtain ⟨name, hname⟩ := parse_of_wrap h
  rw [wrap_eq, hname] at h
  cases h
  have hdevice : (i.describe bean name leaf value).device =
      i.device (i.describe bean name leaf value) := device_congr rfl
  rw [← device_eq_some_iff]
  exact iff_of_eq (congrArg (· = some d) hdevice)

example : (tomcat.wrap [] ("Catalina:j2eeType=Servlet,name=default,WebModule=//localhost/," ++
    "J2EEApplication=none,J2EEServer=none") "requestCount" 1).map (·.device) =
      .ok (some "none:none://localhost/:default") := by
  decide

end Integration

end BeanGauge
