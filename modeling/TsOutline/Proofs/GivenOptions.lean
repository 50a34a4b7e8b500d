import TsOutline.Proofs.Arguments

/-!
# Arguments as a Row of Options

Arguments that a usage without positional arguments accepts are a row of options, one after the other:
each is a flag, or has its value in the same argument, or has it in the next one. This module cuts
accepted arguments into that row, and says over the row what two readers of the arguments find.

- **One step** (`readFrom_cons_cases`) and **the run** (`exists_row_of_readFrom`): what is read without
  a fault and without a rest is a row of options.
- **The last value** (`takeEvents_given`, `readService_row`): reading assigns to an option the value it
  was given last, in whatever spelling.
- **The first spelled-out value** (`argumentAfter?_row`): a search for the name of an option finds the
  value that was given first under exactly that name and in an argument of its own. On an option that
  is given once and spelled out both agree (`firstSpelledOut?_eq_assigned?`).
-/

namespace TsOutline.CommandLine

/-! ## §1 Given options -/

/-- An option as it was given, with the text that names it. -/
inductive GivenOption where
  /-- A flag. -/
  | flag (switch : Switch) (text : String)
  /-- An option with its value in the same argument. -/
  | joined (switch : Switch) (text value : String)
  /-- An option with its value in the next argument. -/
  | apart (switch : Switch) (text value : String)

namespace GivenOption

/-- The option itself. -/
def switch : GivenOption → Switch
  | flag switch _ | joined switch _ _ | apart switch _ _ => switch

/-- The arguments that give the option. -/
def arguments : GivenOption → List String
  | flag _ text | joined _ text _ => [text]
  | apart _ text value => [text, value]

/-- The value of the option, if it has one. Behind an equals sign the mark that ends options is
    dropped. -/
def values : GivenOption → List String
  | flag _ _ => []
  | joined _ _ value => dropDashes [value]
  | apart _ _ value => [value]

/-- What a trace records of the option. -/
def event (g : GivenOption) : Event :=
  .option g.switch g.values

/-- The usage takes the arguments for this option. -/
inductive Fits (u : Usage) : GivenOption → Prop where
  | flag {switch : Switch} {text name : String} {value? : Option String} :
      classify u text = .ok (.known switch name value?) → switch.takesValue = false →
      Fits u (.flag switch text)
  | joined {switch : Switch} {text name value : String} :
      classify u text = .ok (.known switch name (some value)) → switch.takesValue = true →
      Fits u (.joined switch text value)
  | apart {switch : Switch} {text name value : String} :
      classify u text = .ok (.known switch name none) → switch.takesValue = true →
      classify u value = .ok .plain → Fits u (.apart switch text value)

end GivenOption

/-- **A row of options**: the arguments are those of the options, the events are what a trace records
    of them, and each option is what the usage takes its arguments for. -/
structure IsRow (u : Usage) (args : List String) (events : List Event) (row : List GivenOption) :
    Prop where
  arguments : args = row.flatMap GivenOption.arguments
  events : events = row.map GivenOption.event
  fits : ∀ g ∈ row, g.Fits u

theorem IsRow.cons {u : Usage} {args : List String} {events : List Event} {row : List GivenOption}
    {g : GivenOption} (hg : g.Fits u) (h : IsRow u args events row) :
    IsRow u (g.arguments ++ args) (g.event :: events) (g :: row) := by
  obtain ⟨rfl, rfl, hfits⟩ := h
  exact ⟨rfl, rfl, List.forall_mem_cons.mpr ⟨hg, hfits⟩⟩

/-! ## §2 Cutting arguments into a row -/

variable {u : Usage}

/-- The first argument before the mark is taken for what it is alone. -/
theorem classifyAll_eq_cons {args : List String} {a : Arg} {as : List Arg}
    (h : classifyAll u args = .ok (a :: as)) (hkind : a.kind ≠ .dashes) :
    ∃ rest, args = a.text :: rest ∧ classify u a.text = .ok a.kind ∧
      classifyAll u rest = .ok as := by
  cases args with
  | nil => cases h
  | cons s rest =>
    unfold classifyAll at h
    split at h
    · cases h
    · cases h
      exact absurd rfl hkind
    · rename_i kind _ hclass
      split at h
      · cases h
      · rename_i hrest
        cases h
        exact ⟨rest, rfl, hclass, hrest⟩

/-- What one step of reading can do: leave an argument over, take an option, or fail. -/
inductive ReadStep (text : String) (kind : ArgKind) (rest : List Arg) (t : Trace) : Prop where
  | left : t = (readFrom none rest).leaving [text] → ReadStep text kind rest t
  | flag {switch : Switch} {name : String} {value? : Option String} :
      kind = .known switch name value? → switch.takesValue = false →
      t = (readFrom none rest).after (.option switch []) → ReadStep text kind rest t
  | joined {switch : Switch} {name value : String} :
      kind = .known switch name (some value) → switch.takesValue = true →
      t = (readFrom none rest).after (.option switch (dropDashes [value])) →
      ReadStep text kind rest t
  | apart {switch : Switch} {name value : String} {others : List Arg} :
      kind = .known switch name none → switch.takesValue = true →
      rest = ⟨value, .plain⟩ :: others →
      t = (readFrom none others).after (.option switch [value]) → ReadStep text kind rest t
  | failed (fault : Fault) : t = .failed fault → ReadStep text kind rest t

/-- **One step of reading**, where no positional argument is awaited. -/
theorem readFrom_cons_cases (text : String) (kind : ArgKind) (rest : List Arg) :
    ReadStep text kind rest (readFrom none (⟨text, kind⟩ :: rest)) := by
  cases kind with
  | plain => exact .left (by rw [readFrom] <;> simp)
  | dashes => exact .left (by rw [readFrom] <;> simp)
  | unknown => exact .left (by rw [readFrom])
  | known switch name value? =>
    unfold readFrom
    split
    · exact .joined rfl (by assumption) rfl
    · split
      · exact .flag rfl (by assumption) rfl
      · exact .failed _ rfl
    · exact .flag rfl (by assumption) rfl
    · split
      · exact .apart rfl (by assumption) rfl rfl
      · exact .failed _ rfl

/-- **The run of reading**: arguments that leave neither a fault nor a rest are a row of options. -/
theorem exists_row_of_readFrom {args : List String} {as : List Arg}
    (hall : classifyAll u args = .ok as) (hfault : (readFrom none as).fault? = none)
    (hextras : (readFrom none as).extras = []) :
    ∃ row, IsRow u args (readFrom none as).events row := by
  match as with
  | [] =>
    have hargs : args = [] := by rw [← classifyAll_map_text hall]; rfl
    exact ⟨[], hargs, by rw [readFrom_nil]; rfl, nofun⟩
  | ⟨text, kind⟩ :: rest =>
    cases readFrom_cons_cases text kind rest with
    | left ht =>
      rw [ht] at hextras
      cases hextras
    | flag hkind htakes ht =>
      subst hkind
      obtain ⟨tail, rfl, hclass, htail⟩ := classifyAll_eq_cons hall nofun
      rw [ht] at hfault hextras ⊢
      obtain ⟨row, hrow⟩ := exists_row_of_readFrom htail hfault hextras
      exact ⟨_, hrow.cons (.flag hclass htakes)⟩
    | joined hkind htakes ht =>
      subst hkind
      obtain ⟨tail, rfl, hclass, htail⟩ := classifyAll_eq_cons hall nofun
      rw [ht] at hfault hextras ⊢
      obtain ⟨row, hrow⟩ := exists_row_of_readFrom htail hfault hextras
      exact ⟨_, hrow.cons (.joined hclass htakes)⟩
    | apart hkind htakes hrest ht =>
      subst hkind hrest
      obtain ⟨tail, rfl, hclass, htail⟩ := classifyAll_eq_cons hall nofun
      -- the value is an argument of its own, and it was taken for a plain one
      obtain ⟨after, rfl, hplain, hafter⟩ := classifyAll_eq_cons htail nofun
      rw [ht] at hfault hextras ⊢
      obtain ⟨row, hrow⟩ := exists_row_of_readFrom hafter hfault hextras
      exact ⟨_, hrow.cons (.apart hclass htakes hplain)⟩
    | failed fault ht =>
      rw [ht] at hfault
      cases hfault
termination_by as.length

/-- What the service accepts is a row of options, and nothing is left of it. -/
theorem exists_row_of_readService {args : List String} {a : Arguments}
    (h : readService args = .ok a) :
    (∃ row, IsRow serviceUsage args (read serviceUsage args).events row) ∧
      takeEvents serviceUsage .none (read serviceUsage args).events = .ok a := by
  unfold readService takeTrace at h
  split at h
  · cases h
  · rename_i htrace
    split at htrace
    · cases htrace
    · rename_i hevents
      split at htrace
      · cases htrace
      · rename_i hfault
        obtain ⟨rfl, hextras⟩ := Prod.mk.inj (Except.ok.inj htrace)
        cases h
        refine ⟨?_, hevents⟩
        unfold read at hfault hextras ⊢
        cases hall : classifyAll serviceUsage args with
        | error fault =>
          rw [hall] at hfault
          cases hfault
        | ok as =>
          rw [hall] at hfault hextras
          exact exists_row_of_readFrom hall hfault hextras
  · cases h

/-! ## §3 The last value -/

/-- The option under a key that was given last. -/
def lastGiven? (key : Key) (row : List GivenOption) : Option GivenOption :=
  (row.filter fun g => g.switch.key = key).getLast?

/-- The value that reading assigns to an option: the one given last, in whatever spelling. -/
def assigned? (key : Key) (row : List GivenOption) : Option String :=
  (lastGiven? key row).bind fun g => g.values.head?

/-- The values of an event, if it is an option under the key. -/
def Event.values? (key : Key) : Event → Option (List String)
  | option s values => if s.key = key then some values else none
  | positional _ => none

/-- The values of all options under a key, in order. -/
def givenValues (key : Key) (events : List Event) : List (List String) :=
  events.filterMap (Event.values? key)

theorem givenValues_row (key : Key) (row : List GivenOption) :
    givenValues key (row.map GivenOption.event) =
      (row.filter fun g => g.switch.key = key).map GivenOption.values := by
  induction row with
  | nil => rfl
  | cons g rest ih =>
    rw [List.map_cons, givenValues, List.filterMap_cons, ← givenValues, ih, GivenOption.event,
      Event.values?]
    by_cases hkey : g.switch.key = key
    · rw [if_pos hkey, List.filter_cons_of_pos (by simpa using hkey), List.map_cons]
    · rw [if_neg hkey, List.filter_cons_of_neg (by simpa using hkey)]

/-- **Later options win**: a part of the arguments that only the options under one key set has, after
    all events, what the last of them gives, or else what it had. -/
theorem takeEvents_given {β : Type} {key : Key} (part : Arguments → β) (give : List String → β)
    (hpart : ∀ {a a' : Arguments} {s : Switch} {values : List String},
      takeOption a s values = .ok a' → part a' = if s.key = key then give values else part a)
    (hpositional : ∀ (a : Arguments) (positional : Option String),
      part { a with positional := positional } = part a)
    {events : List Event} {a a' : Arguments} (h : takeEvents u a events = .ok a') :
    part a' = ((givenValues key events).getLast?.map give).getD (part a) := by
  induction events generalizing a with
  | nil =>
    cases h
    rfl
  | cons e rest ih =>
    rw [givenValues, List.filterMap_cons]
    cases e with
    | positional values =>
      rw [takeEvents] at h
      rw [ih h, hpositional]
      rfl
    | option s values =>
      rw [takeEvents] at h
      split at h
      · cases h
      · split at h
        · rename_i b hb
          rw [ih h, hpart hb, Event.values?, givenValues]
          -- an option further on hides this one
          by_cases hkey : s.key = key
          · rw [if_pos hkey, if_pos hkey, List.getLast?_cons]
            cases (rest.filterMap (Event.values? key)).getLast? <;> rfl
          · rw [if_neg hkey, if_neg hkey]
        · cases h

/-- What one option does to the config file and to the blacklist. -/
theorem takeOption_ok {a a' : Arguments} {s : Switch} {values : List String}
    (h : takeOption a s values = .ok a') :
    a'.config = (if s.key = .config then values.head? else a.config) ∧
      a'.blacklist = (if s.key = .blacklist then
        some (Exclusion.entriesOf (values.head?.getD "")) else a.blacklist) := by
  revert h
  fun_cases takeOption a s values <;> intro h <;> cases h <;> simp [*]

/-- **Reading the service's arguments** assigns the last config file and the last blacklist. -/
theorem readService_row {args : List String} {a : Arguments} {row : List GivenOption}
    (h : readService args = .ok a)
    (hrow : IsRow serviceUsage args (read serviceUsage args).events row) :
    a.config = assigned? .config row ∧
      a.blacklist = (lastGiven? .blacklist row).map fun g =>
        Exclusion.entriesOf (g.values.head?.getD "") := by
  have htake := (exists_row_of_readService h).2
  rw [hrow.events] at htake
  have hconfig := takeEvents_given Arguments.config List.head? (fun h => (takeOption_ok h).1)
    (fun _ _ => rfl) htake
  have hblacklist := takeEvents_given Arguments.blacklist
    (fun values => some (Exclusion.entriesOf (values.head?.getD "")))
    (fun h => (takeOption_ok h).2) (fun _ _ => rfl) htake
  rw [givenValues_row, List.getLast?_map] at hconfig hblacklist
  rw [hconfig, hblacklist, assigned?, lastGiven?, lastGiven?]
  constructor
  · cases (row.filter fun g => g.switch.key = .config).getLast? <;> rfl
  · cases (row.filter fun g => g.switch.key = .blacklist).getLast? <;> rfl

/-! ## §4 The first spelled-out value -/

/-- The value of an option that was given under exactly this name, with the value in the next
    argument. -/
def GivenOption.spelledOut? (name : String) : GivenOption → Option String
  | apart _ text value => if text = name then some value else none
  | flag _ _ | joined _ _ _ => none

/-- The first value that was given under exactly this name, in an argument of its own. -/
def firstSpelledOut? (name : String) (row : List GivenOption) : Option String :=
  row.findSome? (GivenOption.spelledOut? name)

/-- What a search for the name does with the arguments of one option. -/
theorem argumentAfter?_arguments {name : String} {switch : Switch}
    (hname : classify u name = .ok (.known switch name none)) (htakes : switch.takesValue = true)
    {g : GivenOption} (hg : g.Fits u) (rest : List String) :
    Exclusion.argumentAfter? name (g.arguments ++ rest) =
      (g.spelledOut? name).or (Exclusion.argumentAfter? name rest) := by
  cases hg with
  | @flag other text _ _ hclass hflag =>
    have hne : text ≠ name := by
      rintro rfl
      cases hname.symm.trans hclass
      exact absurd (htakes.symm.trans hflag) (by decide)
    exact if_neg hne
  | @joined other text _ _ hclass _ =>
    have hne : text ≠ name := by
      rintro rfl
      cases hname.symm.trans hclass
    exact if_neg hne
  | @apart other text _ value _ _ hplain =>
    by_cases htext : text = name
    · rw [GivenOption.spelledOut?, if_pos htext]
      exact if_pos htext
    · -- a value that is taken for a plain argument is no option name
      have hvalue : value ≠ name := by
        rintro rfl
        cases hname.symm.trans hplain
      rw [GivenOption.spelledOut?, if_neg htext]
      exact (if_neg htext).trans (if_neg hvalue)

/-- **A search for the name** of an option that takes a value finds, in a row of options, the first
    value that was given spelled out, and no other. -/
theorem argumentAfter?_row {name : String} {switch : Switch}
    (hname : classify u name = .ok (.known switch name none)) (htakes : switch.takesValue = true)
    {args : List String} {events : List Event} {row : List GivenOption}
    (hrow : IsRow u args events row) :
    Exclusion.argumentAfter? name args = firstSpelledOut? name row := by
  obtain ⟨rfl, -, hfits⟩ := hrow
  induction row with
  | nil => rfl
  | cons g rest ih =>
    obtain ⟨hg, hrest⟩ := List.forall_mem_cons.mp hfits
    rw [List.flatMap_cons, argumentAfter?_arguments hname htakes hg, ih hrest, firstSpelledOut?,
      firstSpelledOut?, List.findSome?_cons]
    cases g.spelledOut? name <;> rfl

theorem exists_apart_of_firstSpelledOut? {name value : String} {row : List GivenOption}
    (h : firstSpelledOut? name row = some value) :
    ∃ switch, GivenOption.apart switch name value ∈ row := by
  obtain ⟨g, hmem, hg⟩ := List.exists_of_findSome?_eq_some h
  cases g with
  | flag switch text => cases hg
  | joined switch text found => cases hg
  | apart switch text found =>
    rw [GivenOption.spelledOut?] at hg
    split at hg
    · rename_i htext
      cases hg
      exact ⟨switch, htext ▸ hmem⟩
    · cases hg

/-- **Both readers agree** on an option that is given once and spelled out. -/
theorem firstSpelledOut?_eq_assigned? {name : String} {switch : Switch}
    (hname : classify u name = .ok (.known switch name none)) {row : List GivenOption}
    (hfits : ∀ g ∈ row, g.Fits u)
    (hone : (row.filter fun g => g.switch.key = switch.key).length = 1)
    (hspelled : (firstSpelledOut? name row).isSome) :
    firstSpelledOut? name row = assigned? switch.key row := by
  obtain ⟨value, hfound⟩ := Option.isSome_iff_exists.mp hspelled
  obtain ⟨g, hg⟩ := List.length_eq_one_iff.mp hone
  obtain ⟨other, hmem⟩ := exists_apart_of_firstSpelledOut? hfound
  -- the name belongs to one option only, so what was found is the one that was given
  have hswitch : other = switch := by
    cases hfits _ hmem with
    | apart hclass _ _ =>
      cases hname.symm.trans hclass
      rfl
  have hsame : GivenOption.apart other name value = g := by
    rw [← List.mem_singleton, ← hg, List.mem_filter]
    exact ⟨hmem, by simp [GivenOption.switch, hswitch]⟩
  rw [hfound, assigned?, lastGiven?, hg, ← hsame]
  rfl

end TsOutline.CommandLine
