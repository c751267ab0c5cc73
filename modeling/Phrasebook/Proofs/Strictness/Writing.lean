import Phrasebook.Mapper

/-!
# Writing results without settings

The mappers are asked about a result before the settings are.  What is left to
the settings then is a *gap*: a result without a value that no mapper has a text
for.  Everything else is written in one way.  So the results of a template come
to a list of texts and gaps, whatever the settings are; rendering that is not
strict fills the gaps with one text, and strict rendering fails at the first of
them.
-/

namespace Phrasebook

/-- What a result comes to before the settings are asked: its text, or a gap
that is left by an expression. -/
inductive Entry where
  | text (text : String)
  | gap (expression : Expression)

namespace Entry

/-- The text of an entry when `missing` fills the gaps. -/
def fill (missing : String) : Entry → String
  | .text written => written
  | .gap _ => missing

/-- The text of an entry when no gap is allowed. -/
def demand : Entry → Except ResolutionError String
  | .text written => .ok written
  | .gap expression => .error (.of .propertyNotFound expression)

/-- The expression that left a gap. -/
def gap? : Entry → Option Expression
  | .text _ => none
  | .gap expression => some expression

/-- The text of all entries when no gap is allowed: the first gap is an
error. -/
def demandAll (entries : List Entry) : Except ResolutionError String :=
  match entries.filterMap gap? with
  | [] => .ok (String.join (entries.map (fill "")))
  | expression :: _ => .error (.of .propertyNotFound expression)

/-- The texts between the gaps, before the first and after the last one. -/
def segments : List Entry → List String
  | [] => [""]
  | .text written :: rest =>
    match segments rest with
    | [] => [written]
    | first :: others => (written ++ first) :: others
  | .gap _ :: rest => "" :: segments rest

theorem segments_ne_nil (entries : List Entry) : segments entries ≠ [] := by
  cases entries with
  | nil => exact List.cons_ne_nil _ _
  | cons entry rest =>
      cases entry with
      | text written =>
          rw [segments]
          split <;> exact List.cons_ne_nil _ _
      | gap expression => exact List.cons_ne_nil _ _

/-- One segment more than there are gaps. -/
theorem length_segments (entries : List Entry) :
    (segments entries).length = (entries.filterMap gap?).length + 1 := by
  induction entries with
  | nil => rfl
  | cons entry rest ih =>
      cases entry with
      | text written =>
          rw [segments, List.filterMap_cons_none rfl, ← ih]
          cases between : segments rest with
          | nil => exact absurd between (segments_ne_nil rest)
          | cons first others => rfl
      | gap expression =>
          rw [segments, List.length_cons, ih]
          rfl

/-- Filling the gaps puts the missing text between the segments. -/
theorem join_fill (missing : String) (entries : List Entry) :
    String.join (entries.map (fill missing)) =
      missing.intercalate (segments entries) := by
  induction entries with
  | nil => simp [segments]
  | cons entry rest ih =>
      rw [List.map_cons, String.join_cons, ih]
      cases entry with
      | text written =>
          rw [segments]
          cases between : segments rest with
          | nil => exact absurd between (segments_ne_nil rest)
          | cons first others => rw [fill, String.intercalate_cons_append]
      | gap expression =>
          rw [segments,
            String.intercalate_cons_of_ne_nil (segments_ne_nil rest), fill,
              String.empty_append]

/-- Without gaps it makes no difference what would fill them. -/
theorem demandAll_of_no_gap
    {entries : List Entry} (complete : entries.filterMap gap? = [])
    (missing : String) :
    demandAll entries = .ok (missing.intercalate (segments entries)) := by
  have same : entries.map (fill "") = entries.map (fill missing) := by
    refine List.map_congr_left fun entry member => ?_
    cases entry with
    | text written => rfl
    | gap expression =>
        exact nomatch List.filterMap_eq_nil_iff.mp complete _ member
  rw [demandAll, complete]
  dsimp only
  rw [same, join_fill]

theorem demandAll_of_gap
    {entries : List Entry} {expression : Expression} {others : List Expression}
    (left : entries.filterMap gap? = expression :: others) :
    demandAll entries = .error (.of .propertyNotFound expression) := by
  rw [demandAll, left]

end Entry

namespace Mapper

/-- The first text that one of the mappers has for a value, if any of them has
one. -/
def claim
    (mappers : List Mapper) (value : Option Json) (expression : Expression)
    (state : EngineState) :
    Except ResolutionError (Option String) × EngineState :=
  match mappers with
  | [] => (.ok none, state)
  | mapper :: rest =>
    match mapper.map value expression state with
    | (.error cause, state) =>
      (.error (.of (.mapperFailure cause) expression), state)
    | (.ok (some text), state) => (.ok (some text), state)
    | (.ok none, state) => claim rest value expression state

/-- A value that no mapper claims. -/
def unclaimedEntry (value : Option Json) (expression : Expression) : Entry :=
  match value with
  | some value => .text value.plainText
  | none => .gap expression

def entry (mappers : List Mapper) (node : ResultNode) (state : EngineState) :
    Except ResolutionError Entry × EngineState :=
  match node with
  | .constant text => (.ok (.text text), state)
  | .single value expression =>
    let (claimed, state) := claim mappers value expression state
    (claimed.map fun text? =>
      (text?.map Entry.text).getD (unclaimedEntry value expression), state)

/-- What the results of a template come to, up to the first failure of a
mapper. -/
def entries
    (mappers : List Mapper) (nodes : List ResultNode) (state : EngineState) :
    Except ResolutionError (List Entry) × EngineState :=
  match nodes with
  | [] => (.ok [], state)
  | node :: rest =>
    match entry mappers node state with
    | (.error error, state) => (.error error, state)
    | (.ok first, state) =>
      let (others, state) := entries mappers rest state
      (others.map (first :: ·), state)

/-- The expressions of the results without a value that no mapper claims, in the
order of the results.  The mappers are asked in turn about all of the
results. -/
def unclaimed (mappers : List Mapper) (nodes : List ResultNode)
    (state : EngineState) : List Expression :=
  match nodes with
  | [] => []
  | .constant _ :: rest => unclaimed mappers rest state
  | .single value expression :: rest =>
    let (claimed, state) := claim mappers value expression state
    match claimed, value with
    | .ok none, none => expression :: unclaimed mappers rest state
    | _, _ => unclaimed mappers rest state

variable (config : Config) (mappers : List Mapper)

theorem mapThrough_eq_claim
    (value : Option Json) (expression : Expression) (state : EngineState) :
    mapThrough config mappers value expression state =
      ((claim mappers value expression state).1.bind fun text? =>
          (text?.map Except.ok).getD (defaultText config value expression),
        (claim mappers value expression state).2) := by
  induction mappers generalizing state with
  | nil => rfl
  | cons mapper rest ih =>
      rw [mapThrough, claim]
      rcases mapper.map value expression state with ⟨cause | _ | text, after⟩
      · rfl
      · exact ih after
      · rfl

/-- The text of a result, from what it comes to. -/
theorem nodeText_eq_entry (write : Entry → Except ResolutionError String)
    (texts : ∀ text, write (.text text) = .ok text)
    (gaps : ∀ expression, write (.gap expression) =
      defaultText config none expression)
    (node : ResultNode) (state : EngineState) :
    nodeText config mappers node state =
      ((entry mappers node state).1.bind write,
        (entry mappers node state).2) := by
  cases node with
  | constant text => simp [nodeText, entry, Except.bind, texts]
  | single value expression =>
      rw [nodeText, mapThrough_eq_claim, entry]
      rcases claim mappers value expression state with ⟨error | _ | text, after⟩
      · rfl
      · cases value with
        | none => simp [Except.map, Except.bind, unclaimedEntry, gaps]
        | some value =>
            simp [Except.map, Except.bind, unclaimedEntry, texts, defaultText]
      · simp [Except.map, Except.bind, texts]

/-- Rendering that is not strict fills the gaps. -/
theorem writeAll_lenient
    (lenient : config.strictRendering = false) (written : String)
    (nodes : List ResultNode) (state : EngineState) :
    (writeAll config mappers written nodes state).1 =
      (entries mappers nodes state).1.map fun entries =>
        written ++
          String.join (entries.map (Entry.fill config.missingValue)) := by
  have text (node : ResultNode) (state : EngineState) :=
    nodeText_eq_entry config mappers
      (fun entry => .ok (entry.fill config.missingValue)) (fun _ => rfl)
      (fun expression => by simp [defaultText, lenient, Entry.fill]) node state
  induction nodes generalizing written state with
  | nil => simp [writeAll, entries, Except.map]
  | cons node rest ih =>
      rw [writeAll, entries, text]
      rcases entry mappers node state with ⟨error | first, after⟩
      · rfl
      · simp only [Except.bind]
        rw [ih]
        cases (entries mappers rest after).1 with
        | error error => rfl
        | ok others => simp [Except.map, String.append_assoc]

/-- Strict rendering fails at the first gap, unless a mapper has failed
before. -/
theorem writeAll_strict
    (strict : config.strictRendering = true) (written : String)
    (nodes : List ResultNode) (state : EngineState) {known : List Entry}
    (mapped : (entries mappers nodes state).1 = .ok known) :
    (writeAll config mappers written nodes state).1 =
      (Entry.demandAll known).map (written ++ ·) := by
  have text (node : ResultNode) (state : EngineState) :=
    nodeText_eq_entry config mappers
      Entry.demand (fun _ => rfl)
      (fun expression => by simp [defaultText, strict, Entry.demand]) node state
  induction nodes generalizing written state known with
  | nil =>
      cases mapped
      simp [writeAll, Entry.demandAll, Except.map]
  | cons node rest ih =>
      rw [entries] at mapped
      rw [writeAll, text]
      revert mapped
      rcases entry mappers node state with ⟨error | first, after⟩
      · rintro ⟨⟩
      · intro mapped
        cases others : (entries mappers rest after).1 with
        | error error =>
            simp only [others] at mapped
            cases mapped
        | ok others' =>
            simp only [others] at mapped
            cases mapped
            cases first with
            | text own =>
                simp only [Except.bind, Entry.demand]
                rw [ih _ after others, Entry.demandAll, Entry.demandAll,
                  List.filterMap_cons_none rfl]
                cases others'.filterMap Entry.gap? with
                | nil => simp [Except.map, Entry.fill, String.append_assoc]
                | cons expression later => rfl
            | gap expression => rfl

/-- When a mapper fails, strict rendering does, if not before. -/
theorem writeAll_strict_of_failed
    (strict : config.strictRendering = true) (written : String)
    (nodes : List ResultNode) (state : EngineState) {error : ResolutionError}
    (failed : (entries mappers nodes state).1 = .error error) :
    ∃ error, (writeAll config mappers written nodes state).1 =
      .error error := by
  have text (node : ResultNode) (state : EngineState) :=
    nodeText_eq_entry config mappers
      Entry.demand (fun _ => rfl)
      (fun expression => by simp [defaultText, strict, Entry.demand]) node state
  induction nodes generalizing written state error with
  | nil => cases failed
  | cons node rest ih =>
      rw [entries] at failed
      rw [writeAll, text]
      revert failed
      rcases entry mappers node state with ⟨error | first, after⟩
      · exact fun _ => ⟨error, rfl⟩
      · intro failed
        cases others : (entries mappers rest after).1 with
        | ok others' =>
            simp only [others] at failed
            cases failed
        | error error =>
            cases first with
            | text own => exact ih _ after others
            | gap expression => exact ⟨_, rfl⟩

theorem unclaimed_cons
    {mappers : List Mapper} {node : ResultNode} {state after : EngineState}
    {first : Entry} (known : entry mappers node state = (.ok first, after))
    (rest : List ResultNode) :
    unclaimed mappers (node :: rest) state =
      first.gap?.toList ++ unclaimed mappers rest after := by
  cases node with
  | constant text =>
      cases known
      rfl
  | single value expression =>
      rw [entry] at known
      rw [unclaimed]
      revert known
      rcases claim mappers value expression state with
        ⟨error | _ | text, after'⟩
      · exact fun known => nomatch known
      all_goals
        intro known
        cases known
        cases value <;> rfl

/-- The gaps are left by the results that no mapper claims. -/
theorem gaps_eq_unclaimed
    (nodes : List ResultNode) (state : EngineState) {known : List Entry}
    (mapped : (entries mappers nodes state).1 = .ok known) :
    known.filterMap Entry.gap? = unclaimed mappers nodes state := by
  induction nodes generalizing state known with
  | nil =>
      cases mapped
      rfl
  | cons node rest ih =>
      rw [entries] at mapped
      revert mapped
      cases known' : entry mappers node state with
      | mk one after =>
          cases one with
          | error error => exact fun mapped => nomatch mapped
          | ok first =>
              intro mapped
              cases others : (entries mappers rest after).1 with
              | error error =>
                  simp only [others] at mapped
                  cases mapped
              | ok others' =>
                  simp only [others] at mapped
                  cases mapped
                  rw [unclaimed_cons known', ← ih after others]
                  cases first <;> rfl

end Mapper

end Phrasebook
