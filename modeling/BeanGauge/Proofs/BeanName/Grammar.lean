import BeanGauge.Proofs.BeanName
/-!
# The grammar of bean identifiers

An identifier is cut at its first colon, the text behind it at every comma, and each segment at its
first equals sign. Reading succeeds exactly if there is a colon and every segment has an equals
sign, and it reports the first thing that is missing. Of several segments with one key the last
counts, so the order of segments with different keys does not matter.
-/

namespace BeanGauge.BeanName

/-! ## Cutting an identifier -/

/-- Whether an identifier is a domain, a colon, and some segments with commas between them. The
domain is all before the first colon, and no segment can be cut further. -/
structure Cut (identifier domain : String) (segments : List String) : Prop where
  text : identifier = domain ++ ":" ++ ",".intercalate segments
  domain : ':' ∉ domain.toList
  segmented : segments ≠ []
  segments : ∀ s ∈ segments, ',' ∉ s.toList

variable {identifier domain : String} {segments : List String}

theorem toList_cut (domain : String) (segments : List String) :
    (domain ++ ":" ++ ",".intercalate segments).toList =
      domain.toList ++ ':' :: [','].intercalate (segments.map String.toList) := by
  have hcolon : ":".toList = [':'] := by decide
  have hcomma : ",".toList = [','] := by decide
  simp only [String.toList_append, String.toList_intercalate, hcolon, hcomma, List.append_assoc,
    List.singleton_append]

theorem Cut.splitOnce (h : Cut identifier domain segments) :
    Text.splitOnce ':' identifier.toList =
      some (domain.toList, [','].intercalate (segments.map String.toList)) := by
  rw [h.text, toList_cut]
  exact Text.splitOnce_eq_some_iff.2 ⟨rfl, h.domain⟩

theorem Cut.splitAll (h : Cut identifier domain segments) :
    Text.splitAll ',' ([','].intercalate (segments.map String.toList)) =
      segments.map String.toList := by
  refine Text.splitAll_intercalate (mt List.map_eq_nil_iff.1 h.segmented) ?_
  intro part hpart
  obtain ⟨s, hs, rfl⟩ := List.mem_map.1 hpart
  exact h.segments s hs

/-- An identifier can be cut in one way only. -/
theorem Cut.unique {domain' : String} {segments' : List String}
    (h : Cut identifier domain segments) (h' : Cut identifier domain' segments') :
    domain = domain' ∧ segments = segments' := by
  have hsame := h.splitOnce.symm.trans h'.splitOnce
  rw [Option.some.injEq, Prod.mk.injEq] at hsame
  refine ⟨String.toList_injective hsame.1, ?_⟩
  have hparts : segments.map String.toList = segments'.map String.toList := by
    rw [← h.splitAll, hsame.2, h'.splitAll]
  exact List.map_injective_iff.2 (fun _ _ => String.toList_injective) hparts

/-- Every identifier with a colon can be cut. -/
theorem exists_cut_iff :
    (∃ domain segments, Cut identifier domain segments) ↔ ':' ∈ identifier.toList := by
  constructor
  · rintro ⟨domain, segments, h⟩
    by_contra hnone
    rw [← Text.splitOnce_eq_none_iff, h.splitOnce] at hnone
    cases hnone
  · intro hcolon
    obtain ⟨⟨front, rest⟩, hsplit⟩ :
        ∃ parts, Text.splitOnce ':' identifier.toList = some parts := by
      cases hparts : Text.splitOnce ':' identifier.toList with
      | none => exact absurd hcolon (Text.splitOnce_eq_none_iff.1 hparts)
      | some parts => exact ⟨parts, rfl⟩
    obtain ⟨htext, hfront⟩ := Text.splitOnce_eq_some_iff.1 hsplit
    have hlists : ((Text.splitAll ',' rest).map String.ofList).map String.toList =
        Text.splitAll ',' rest := by
      simp [List.map_map, Function.comp_def]
    refine ⟨String.ofList front, (Text.splitAll ',' rest).map String.ofList, ?_, ?_, ?_, ?_⟩
    · apply String.toList_injective
      rw [toList_cut, hlists, Text.intercalate_splitAll, htext, String.toList_ofList]
    · rw [String.toList_ofList]
      exact hfront
    · exact mt List.map_eq_nil_iff.1 (Text.splitAll_ne_nil ',' rest)
    · intro s hs
      obtain ⟨part, hpart, rfl⟩ := List.mem_map.1 hs
      rw [String.toList_ofList]
      exact Text.not_mem_of_mem_splitAll hpart

/-! ## The tags of segments -/

/-- Whether a segment gives a key a value: they are what stands left and right of its first equals
sign, without the blanks around them. -/
def Gives (segment key value : String) : Prop :=
  ∃ left right, segment = left ++ "=" ++ right ∧ '=' ∉ left.toList ∧
    Text.trim left = key ∧ Text.trim right = value

/-- Whether the last segment that gives a key some value gives it this one. -/
def LastGives (segments : List String) (key value : String) : Prop :=
  ∃ before segment after, segments = before ++ segment :: after ∧ Gives segment key value ∧
    ∀ later ∈ after, ∀ other, ¬Gives later key other

/-- Whether no two segments give a value to the same key. -/
def KeysApart (segments : List String) : Prop :=
  segments.Pairwise fun s t => ∀ key v w, Gives s key v → ¬Gives t key w

def tag? (segment : String) : Option (String × String) := (tagOfSegment segment.toList).toOption

theorem tagOfSegment_eq_error_iff {segment : String} {fault : Fault} :
    tagOfSegment segment.toList = .error fault ↔
      '=' ∉ segment.toList ∧ fault = .noEquals segment := by
  rw [tagOfSegment, ← Text.splitOnce_eq_none_iff]
  cases Text.splitOnce '=' segment.toList with
  | none => simp [eq_comm]
  | some parts => simp

theorem exists_tagOfSegment_iff {segment : String} :
    (∃ tag, tagOfSegment segment.toList = .ok tag) ↔ '=' ∈ segment.toList := by
  cases htag : tagOfSegment segment.toList with
  | error fault => simp [(tagOfSegment_eq_error_iff.1 htag).1]
  | ok tag =>
    have hequals : '=' ∈ segment.toList := by
      by_contra hnone
      rw [tagOfSegment_eq_error_iff.2 ⟨hnone, rfl⟩] at htag
      cases htag
    simp [hequals]

/-- The tag that is read of a segment is the one it gives. -/
theorem tag?_eq_some_iff {segment key value : String} :
    tag? segment = some (key, value) ↔ Gives segment key value := by
  have hequals : "=".toList = ['='] := by decide
  rw [tag?, toOption_eq_some_iff, tagOfSegment]
  constructor
  · intro h
    split at h
    · cases h
    rename_i left right hsplit
    cases h
    obtain ⟨htext, hleft⟩ := Text.splitOnce_eq_some_iff.1 hsplit
    refine ⟨String.ofList left, String.ofList right, ?_, ?_, ?_, ?_⟩
    · apply String.toList_injective
      simp only [htext, String.toList_append, String.toList_ofList, hequals, List.append_assoc,
        List.singleton_append]
    · rw [String.toList_ofList]
      exact hleft
    · rw [Text.trim, String.toList_ofList]
    · rw [Text.trim, String.toList_ofList]
  · rintro ⟨left, right, rfl, hleft, rfl, rfl⟩
    have hsplit : Text.splitOnce '=' (left ++ "=" ++ right).toList =
        some (left.toList, right.toList) := by
      refine Text.splitOnce_eq_some_iff.2 ⟨?_, hleft⟩
      simp only [String.toList_append, hequals, List.append_assoc, List.singleton_append]
    rw [hsplit]
    rfl

/-- One more segment decides if it gives the key a value, and changes nothing else. -/
theorem lastGives_concat_iff {segments : List String} {segment key value : String} :
    LastGives (segments ++ [segment]) key value ↔
      Gives segment key value ∨ ((∀ other, ¬Gives segment key other) ∧
        LastGives segments key value) := by
  constructor
  · rintro ⟨before, s, after, heq, hgives, hlater⟩
    rcases List.eq_nil_or_concat' after with rfl | ⟨after, last, rfl⟩
    · obtain ⟨-, hs⟩ := List.append_inj' heq rfl
      obtain rfl := (List.cons.inj hs).1
      exact .inl hgives
    · rw [← List.cons_append, ← List.append_assoc] at heq
      obtain ⟨hfront, hs⟩ := List.append_inj' heq rfl
      obtain rfl := (List.cons.inj hs).1
      refine .inr ⟨hlater _ (List.mem_append_right _ List.mem_cons_self), before, s, after, hfront,
        hgives, ?_⟩
      exact fun later hmem => hlater later (List.mem_append_left _ hmem)
  · rintro (hgives | ⟨hnot, before, s, after, rfl, hgives, hlater⟩)
    · exact ⟨segments, segment, [], rfl, hgives, List.forall_mem_nil _⟩
    · refine ⟨before, s, after ++ [segment], by simp, hgives, ?_⟩
      intro later hmem
      rcases List.mem_append.1 hmem with hmem | hmem
      · exact hlater later hmem
      · rw [List.mem_singleton.1 hmem]
        exact hnot

/-- The tags of some segments are what the last segments give. -/
theorem get?_ofList_tag? (segments : List String) (key value : String) :
    (Dict.ofList (segments.filterMap tag?)).get? key = some value ↔
      LastGives segments key value := by
  induction segments using List.reverseRecOn with
  | nil =>
    constructor
    · intro h
      cases h
    · rintro ⟨before, segment, after, heq, -⟩
      exact absurd heq.symm (List.append_ne_nil_of_right_ne_nil _ (List.cons_ne_nil _ _))
  | append_singleton segments segment ih =>
    rw [lastGives_concat_iff, ← ih, List.filterMap_append, List.filterMap_cons, List.filterMap_nil]
    cases htag : tag? segment with
    | none =>
      have hnot : ∀ other, ¬Gives segment key other := by
        intro other hgives
        rw [tag?_eq_some_iff.2 hgives] at htag
        cases htag
      simp [hnot]
    | some t =>
      have hgives : ∀ other, Gives segment key other ↔ t.1 = key ∧ t.2 = other := by
        intro other
        rw [← tag?_eq_some_iff, htag, Option.some.injEq, Prod.ext_iff]
      simp only [hgives, Dict.get?_ofList_concat]
      by_cases hkey : t.1 = key
      · rw [if_neg (by simp [hkey])]
        simp [hkey]
      · have hapart : key < t.1 ∨ t.1 < key := by
          by_contra hnot
          rw [not_or] at hnot
          exact hkey (KeyOrder.connected hnot.2 hnot.1)
        rw [if_pos hapart]
        simp [hkey]

theorem keysApart_iff : KeysApart segments ↔ ((segments.filterMap tag?).map Prod.fst).Nodup := by
  rw [List.nodup_iff_pairwise_ne, List.pairwise_map, List.pairwise_filterMap]
  constructor
  · refine List.Pairwise.imp ?_
    rintro s t hapart ⟨key, v⟩ hs ⟨key', w⟩ ht rfl
    exact hapart key v w (tag?_eq_some_iff.1 hs) (tag?_eq_some_iff.1 ht)
  · refine List.Pairwise.imp ?_
    intro s t hapart key v w hs ht
    exact hapart _ (tag?_eq_some_iff.2 hs) _ (tag?_eq_some_iff.2 ht) rfl

/-! ## Reading an identifier -/

def readTags (segments : List String) : Except Fault (List (String × String)) :=
  segments.mapM fun s => tagOfSegment s.toList

/-- The tags are read exactly if every segment has an equals sign, and they are those of all of
them. -/
theorem readTags_eq_ok_iff {tags : List (String × String)} :
    readTags segments = .ok tags ↔
      (∀ s ∈ segments, '=' ∈ s.toList) ∧ tags = segments.filterMap tag? := by
  have htags : ∀ hall : ∀ s ∈ segments, '=' ∈ s.toList,
      readTags segments = .ok (segments.filterMap tag?) := fun hall =>
    mapM_of_ok fun s hs => exists_tagOfSegment_iff.2 (hall s hs)
  constructor
  · intro h
    have hall : ∀ s ∈ segments, '=' ∈ s.toList := fun s hs =>
      exists_tagOfSegment_iff.1 (exists_mapM_iff.1 ⟨tags, h⟩ s hs)
    rw [htags hall, Except.ok.injEq] at h
    exact ⟨hall, h.symm⟩
  · rintro ⟨hall, rfl⟩
    exact htags hall

/-- Whether this is the first segment without an equals sign. -/
def FirstWithout (segments : List String) (segment : String) : Prop :=
  ∃ before after, segments = before ++ segment :: after ∧ '=' ∉ segment.toList ∧
    ∀ s ∈ before, '=' ∈ s.toList

/-- The fault is that of the first segment without an equals sign. -/
theorem readTags_eq_error_iff {fault : Fault} :
    readTags segments = .error fault ↔
      ∃ segment, FirstWithout segments segment ∧ fault = .noEquals segment := by
  rw [readTags, mapM_eq_error_iff]
  simp only [exists_tagOfSegment_iff, tagOfSegment_eq_error_iff]
  constructor
  · rintro ⟨before, segment, after, heq, hbefore, hsegment, hfault⟩
    exact ⟨segment, ⟨before, after, heq, hsegment, hbefore⟩, hfault⟩
  · rintro ⟨segment, ⟨before, after, heq, hsegment, hbefore⟩, hfault⟩
    exact ⟨before, segment, after, heq, hbefore, hsegment, hfault⟩

/-- An identifier that is cut has its domain, and the tags of its segments or the first fault of
them. -/
theorem parse_of_cut (h : Cut identifier domain segments) :
    parse identifier = ((readTags segments).map fun tags =>
      (⟨domain, Dict.ofList tags⟩ : BeanName)).mapError fun fault => ⟨identifier, fault⟩ := by
  have htags : (segments.map String.toList).mapM tagOfSegment = readTags segments := by
    rw [List.mapM_map]
    rfl
  rw [parse, parseChars, h.splitOnce]
  dsimp only
  rw [h.splitAll, htags, String.ofList_toList]
  rfl

theorem parse_of_no_colon (h : ':' ∉ identifier.toList) :
    parse identifier = .error ⟨identifier, .noColon⟩ := by
  rw [parse, parseChars, Text.splitOnce_eq_none_iff.2 h]
  rfl

/-- A name is read if every segment has an equals sign. -/
theorem parse_eq_ok_iff_of_cut (h : Cut identifier domain segments) {b : BeanName} :
    parse identifier = .ok b ↔ (∀ s ∈ segments, '=' ∈ s.toList) ∧
      b = ⟨domain, Dict.ofList (segments.filterMap tag?)⟩ := by
  rw [parse_of_cut h, mapError_eq_ok_iff]
  cases htags : readTags segments with
  | error fault =>
    have hnot : ¬∀ s ∈ segments, '=' ∈ s.toList := by
      intro hall
      rw [readTags_eq_ok_iff.2 ⟨hall, rfl⟩] at htags
      cases htags
    simp [Except.map, hnot]
  | ok tags =>
    obtain ⟨hall, rfl⟩ := readTags_eq_ok_iff.1 htags
    rw [and_iff_right hall]
    constructor
    · intro hb
      exact (Except.ok.inj hb).symm
    · rintro rfl
      rfl

/-- Otherwise the first segment without one is the fault. -/
theorem parse_eq_error_iff_of_cut (h : Cut identifier domain segments) {e : Malformed} :
    parse identifier = .error e ↔
      ∃ segment, FirstWithout segments segment ∧ e = ⟨identifier, .noEquals segment⟩ := by
  rw [parse_of_cut h]
  cases htags : readTags segments with
  | error fault =>
    obtain ⟨segment, hfirst, rfl⟩ := readTags_eq_error_iff.1 htags
    constructor
    · intro he
      cases he
      exact ⟨segment, hfirst, rfl⟩
    · rintro ⟨segment', hfirst', rfl⟩
      have hsame := readTags_eq_error_iff.2 ⟨segment', hfirst', rfl⟩
      rw [htags, Except.error.injEq] at hsame
      rw [hsame]
      rfl
  | ok tags =>
    constructor
    · intro he
      cases he
    · rintro ⟨segment, hfirst, -⟩
      rw [readTags_eq_error_iff.2 ⟨segment, hfirst, rfl⟩] at htags
      cases htags

/-- Segments with different keys may come in any order. -/
theorem toOption_parse_congr_perm {identifier' : String} {segments' : List String}
    (h : Cut identifier domain segments) (h' : Cut identifier' domain segments')
    (hperm : segments.Perm segments') (hkeys : KeysApart segments) :
    (parse identifier).toOption = (parse identifier').toOption := by
  have htags : Dict.ofList (segments.filterMap tag?) = Dict.ofList (segments'.filterMap tag?) :=
    Dict.ofList_congr_perm (hperm.filterMap tag?) (keysApart_iff.1 hkeys)
  apply Option.ext
  intro b
  rw [toOption_eq_some_iff, toOption_eq_some_iff, parse_eq_ok_iff_of_cut h,
    parse_eq_ok_iff_of_cut h', htags]
  simp only [hperm.mem_iff]

/-- Reading an identifier. It succeeds exactly if there is a colon and every segment has an equals
sign. The domain is the text before the first colon, and a key has the value that the last segment
with this key gives. Otherwise the error carries the identifier and names the missing colon or the
first segment without an equals sign. Segments with different keys may come in any order. -/
theorem parse_follows_grammar :
    (∀ x, (∃ domain segments, Cut x domain segments) ↔ ':' ∈ x.toList) ∧
    (∀ x domain segments domain' segments', Cut x domain segments → Cut x domain' segments' →
      domain = domain' ∧ segments = segments') ∧
    (∀ x, (∃ b, parse x = .ok b) ↔
      ∃ domain segments, Cut x domain segments ∧ ∀ s ∈ segments, '=' ∈ s.toList) ∧
    (∀ x domain segments b, Cut x domain segments → parse x = .ok b →
      b.domain = domain ∧ domainOf x = domain ∧
        ∀ key value, b.tags.get? key = some value ↔ LastGives segments key value) ∧
    (∀ x e, parse x = .error e ↔ e.identifier = x ∧
      ((':' ∉ x.toList ∧ e.fault = .noColon) ∨
        ∃ domain segments segment, Cut x domain segments ∧ FirstWithout segments segment ∧
          e.fault = .noEquals segment)) ∧
    (∀ e : Malformed, e.message =
      "Malformed bean identifier '" ++ e.identifier ++ "': " ++ e.fault.reason) ∧
    Fault.noColon.reason = "missing ':' between domain and tags" ∧
    (∀ segment, (Fault.noEquals segment).reason = "tag segment '" ++ segment ++ "' has no '='") ∧
    (∀ x x' domain segments segments', Cut x domain segments → Cut x' domain segments' →
      segments.Perm segments' → KeysApart segments →
      (parse x).toOption = (parse x').toOption ∧
        (parse x).toOption.map canonical = (parse x').toOption.map canonical) := by
  refine ⟨fun x => exists_cut_iff, fun _ _ _ _ _ h h' => h.unique h', ?_, ?_, ?_, fun _ => rfl,
    rfl, fun _ => rfl, ?_⟩
  · intro x
    constructor
    · rintro ⟨b, hb⟩
      obtain ⟨domain, segments, hcut⟩ : ∃ domain segments, Cut x domain segments := by
        rw [exists_cut_iff]
        by_contra hcolon
        rw [parse_of_no_colon hcolon] at hb
        cases hb
      exact ⟨domain, segments, hcut, ((parse_eq_ok_iff_of_cut hcut).1 hb).1⟩
    · rintro ⟨domain, segments, hcut, hequals⟩
      exact ⟨_, (parse_eq_ok_iff_of_cut hcut).2 ⟨hequals, rfl⟩⟩
  · intro x domain segments b hcut hb
    obtain ⟨-, rfl⟩ := (parse_eq_ok_iff_of_cut hcut).1 hb
    exact ⟨rfl, domainOf_of_parse hb, get?_ofList_tag? segments⟩
  · rintro x ⟨identifier, fault⟩
    by_cases hcolon : ':' ∈ x.toList
    · obtain ⟨domain, segments, hcut⟩ := exists_cut_iff.2 hcolon
      rw [parse_eq_error_iff_of_cut hcut]
      constructor
      · rintro ⟨segment, hfirst, he⟩
        cases he
        exact ⟨rfl, .inr ⟨domain, segments, segment, hcut, hfirst, rfl⟩⟩
      · rintro ⟨rfl, ⟨hnone, -⟩ | ⟨domain', segments', segment, hcut', hfirst, rfl⟩⟩
        · exact absurd hcolon hnone
        · obtain ⟨rfl, rfl⟩ := hcut.unique hcut'
          exact ⟨segment, hfirst, rfl⟩
    · rw [parse_of_no_colon hcolon]
      constructor
      · intro he
        cases he
        exact ⟨rfl, .inl ⟨hcolon, rfl⟩⟩
      · rintro ⟨rfl, ⟨-, rfl⟩ | ⟨domain, segments, segment, hcut, -⟩⟩
        · rfl
        · exact absurd (exists_cut_iff.1 ⟨domain, segments, hcut⟩) hcolon
  · intro x x' domain segments segments' hcut hcut' hperm hkeys
    have hsame := toOption_parse_congr_perm hcut hcut' hperm hkeys
    exact ⟨hsame, congrArg _ hsame⟩

/-- Some segments with blanks and separators in them, in two orders; a key that is given twice; and
a segment that gives nothing. -/
theorem parse_shuffled :
    Cut "a.b:host = h:80=x ,=,k=1" "a.b" ["host = h:80=x ", "=", "k=1"] ∧
    (parse "a.b:host = h:80=x ,=,k=1").toOption = (parse "a.b:k=1,host = h:80=x ,=").toOption ∧
    (∃ b, parse "a.b:k=1, k = 2,=" = .ok b ∧ b.domain = "a.b" ∧ b.tags.get? "k" = some "2") ∧
    parse "a.b:k=1,oops,,=" = .error ⟨"a.b:k=1,oops,,=", .noEquals "oops"⟩ := by
  obtain ⟨-, -, -, hok, herror, -, -, -, hshuffle⟩ := parse_follows_grammar
  have hcut : Cut "a.b:host = h:80=x ,=,k=1" "a.b" ["host = h:80=x ", "=", "k=1"] :=
    ⟨by decide, by decide, by decide, by decide⟩
  have hcut' : Cut "a.b:k=1,host = h:80=x ,=" "a.b" ["k=1", "host = h:80=x ", "="] :=
    ⟨by decide, by decide, by decide, by decide⟩
  have htwice : Cut "a.b:k=1, k = 2,=" "a.b" ["k=1", " k = 2", "="] :=
    ⟨by decide, by decide, by decide, by decide⟩
  have hoops : Cut "a.b:k=1,oops,,=" "a.b" ["k=1", "oops", "", "="] :=
    ⟨by decide, by decide, by decide, by decide⟩
  refine ⟨hcut, ?_, ?_, ?_⟩
  · exact (hshuffle _ _ _ _ _ hcut hcut' (by decide) (keysApart_iff.2 (by decide))).1
  · have hsome : ((parse "a.b:k=1, k = 2,=").toOption).isSome := by decide
    obtain ⟨b, hb⟩ := Option.isSome_iff_exists.1 hsome
    have hb := toOption_eq_some_iff.1 hb
    obtain ⟨hdomain, -, hget⟩ := hok _ _ _ b htwice hb
    have hlast : LastGives ["k=1", " k = 2", "="] "k" "2" := by
      refine ⟨["k=1"], " k = 2", ["="], rfl, tag?_eq_some_iff.1 (by decide), ?_⟩
      refine List.forall_mem_singleton.2 fun other hother => ?_
      have hkey : (tag? "=").map Prod.fst = some "" := by decide
      rw [tag?_eq_some_iff.2 hother] at hkey
      have hne : "k" ≠ "" := by decide
      exact hne (Option.some.inj hkey)
    exact ⟨b, hb, hdomain, (hget _ _).2 hlast⟩
  · refine (herror _ _).2 ⟨rfl, .inr ⟨_, _, _, hoops, ⟨["k=1"], ["", "="], rfl, ?_, ?_⟩, rfl⟩⟩
    · decide
    · decide

end BeanGauge.BeanName
