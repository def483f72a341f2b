import PathQuery.Proofs.Json.RoundTrip

/-!
# What is read is well formed

A document that has been read names no key twice, is no deeper than the reader allows, and has
finite numbers only (`Json.fits_of_ofChars?`). While the reader is at work this holds of everything
that is complete, with less room the more lists and objects are open around it
(`Reader.State.Fits`). One token keeps it (`Reader.fits_of_step?`), because `Entries.insert` keeps
keys distinct, because a list or an object is only opened where there is room, and because no word
is a number that is too large.
-/

set_option autoImplicit false

namespace PathQuery

/-- The number stands for a finite double. -/
def JsonNumber.IsFinite (n : JsonNumber) : Prop :=
  ∃ negative m, n.toDouble = .finite negative m

theorem JsonNumber.isFinite_integer {i : Int} (small : i.natAbs ≤ greatestInteger) :
    (integer i).IsFinite := by
  obtain ⟨m, units⟩ := Magnitude.exists_whole small
  exact ⟨_, m, ofInt_eq units⟩

namespace Json

/-! ## Documents that fit -/

mutual
/-- All numbers in the document are finite. -/
def FiniteNumbers : Json → Prop
  | number n => n.IsFinite
  | list items => FiniteItems items
  | object entries => FiniteEntries entries
  | _ => True

def FiniteItems : List Json → Prop
  | [] => True
  | item :: rest => item.FiniteNumbers ∧ FiniteItems rest

def FiniteEntries : List (String × Json) → Prop
  | [] => True
  | (_, value) :: rest => value.FiniteNumbers ∧ FiniteEntries rest
end

/-- The document names no key twice, is no deeper than the room there is, and has finite numbers
only. -/
structure Fits (room : Nat) (json : Json) : Prop where
  distinct : json.Distinct
  depth_le : json.depth ≤ room
  finite : json.FiniteNumbers

/-- The entries name no key twice, and their values fit. -/
structure EntriesFit (room : Nat) (entries : List (String × Json)) : Prop where
  nodup : (Entries.keys entries).Nodup
  values : ∀ entry ∈ entries, entry.2.Fits room

theorem fits_list {room : Nat} {items : List Json} (fit : ∀ item ∈ items, item.Fits room) :
    (list items).Fits (room + 1) := by
  induction items with
  | nil => exact ⟨trivial, Nat.succ_le_succ (Nat.zero_le _), trivial⟩
  | cons item rest inductionHypothesis =>
      obtain ⟨distinct, depth_le, finite⟩ := fit item (List.mem_cons_self ..)
      obtain ⟨others, below, finite'⟩ :=
        inductionHypothesis fun other member => fit other (List.mem_cons_of_mem _ member)
      exact ⟨⟨distinct, others⟩,
        Nat.succ_le_succ (Nat.max_le.mpr ⟨depth_le, Nat.le_of_succ_le_succ below⟩),
        finite, finite'⟩

theorem fits_object {room : Nat} {entries : List (String × Json)}
    (fit : EntriesFit room entries) : (object entries).Fits (room + 1) := by
  have all : DistinctEntries entries ∧ entriesDepth entries ≤ room ∧ FiniteEntries entries := by
    obtain ⟨-, values⟩ := fit
    induction entries with
    | nil => exact ⟨trivial, Nat.zero_le _, trivial⟩
    | cons entry rest inductionHypothesis =>
        obtain ⟨key, value⟩ := entry
        obtain ⟨distinct, depth_le, finite⟩ := values (key, value) (List.mem_cons_self ..)
        obtain ⟨others, below, finite'⟩ :=
          inductionHypothesis fun other member => values other (List.mem_cons_of_mem _ member)
        exact ⟨⟨distinct, others⟩, Nat.max_le.mpr ⟨depth_le, below⟩, finite, finite'⟩
  obtain ⟨distinct, depth_le, finite⟩ := all
  exact ⟨⟨fit.nodup, distinct⟩, Nat.succ_le_succ depth_le, finite⟩

theorem entriesFit_nil (room : Nat) : EntriesFit room [] := ⟨List.nodup_nil, nofun⟩

theorem EntriesFit.insert {room : Nat} {entries : List (String × Json)}
    (fit : EntriesFit room entries) (key : String) {json : Json} (value : json.Fits room) :
    EntriesFit room (Entries.insert entries key json) := by
  refine ⟨Entries.nodup_keys_insert fit.nodup key json, fun entry member => ?_⟩
  rcases Entries.mem_insert member with old | rfl
  · exact fit.values entry old
  · exact value

/-! ## Words -/

/-- A number is read as an integer only if it is small, and as a double only if it is finite. -/
theorem Token.isFinite_of_numberOfNumeral? {negative : Bool} {numeral : Numeral} {n : JsonNumber}
    (found : numberOfNumeral? negative numeral = some n) : n.IsFinite := by
  unfold numberOfNumeral? at found
  dsimp only at found
  split at found
  · next small =>
      cases found
      simp only [Bool.and_eq_true, decide_eq_true_eq] at small
      refine JsonNumber.isFinite_integer ?_
      split <;> omega
  · obtain ⟨m, -, rfl⟩ := Option.map_eq_some_iff.mp found
    exact ⟨negative, m, rfl⟩

/-- A word stands for nothing that has parts. -/
theorem Token.fits_ofWord? {word : List Char} {json : Json} (found : ofWord? word = some json)
    (room : Nat) : json.Fits room := by
  unfold ofWord? at found
  split at found
  · cases found
    exact ⟨trivial, Nat.zero_le _, trivial⟩
  · split at found
    · cases found
      exact ⟨trivial, Nat.zero_le _, trivial⟩
    · split at found
      · cases found
        exact ⟨trivial, Nat.zero_le _, trivial⟩
      · obtain ⟨n, number, rfl⟩ := Option.map_eq_some_iff.mp found
        obtain ⟨numeral, -, number⟩ := Option.bind_eq_some_iff.mp number
        exact ⟨trivial, Nat.zero_le _, isFinite_of_numberOfNumeral? number⟩

namespace Reader

/-! ## The invariant of the reader -/

/-- What is complete in a list or object fits into the room inside it. -/
def Frame.Fits (room : Nat) : Frame → Prop
  | list items => ∀ item ∈ items, item.Fits room
  | object entries _ => EntriesFit room entries

/-- Every list and object that is open leaves less room to those inside it. The room is what is left
inside the innermost. -/
inductive FramesFit : Nat → List Frame → Prop where
  | nil : FramesFit greatestDepth []
  | cons {room : Nat} {frame : Frame} {outer : List Frame} :
      frame.Fits room → FramesFit (room + 1) outer → FramesFit room (frame :: outer)

/-- What is known of what comes next fits into the room. An object whose value is not being read is
open without a frame, so it needs room for itself. -/
def Expected.Fits (room : Nat) : Expected → Prop
  | value | item => True
  | firstKey => 0 < room
  | key entries | colon entries _ => ∃ inside, room = inside + 1 ∧ EntriesFit inside entries
  | delimiter json => json.Fits room

/-- Everything that has been read fits. -/
def State.Fits (state : State) : Prop :=
  ∃ room, FramesFit room state.frames ∧ state.expected.Fits room

theorem FramesFit.room {room : Nat} {frames : List Frame} (fit : FramesFit room frames) :
    frames.length + room = greatestDepth := by
  induction fit with
  | nil => exact Nat.zero_add _
  | cons _ _ inductionHypothesis =>
      rw [List.length_cons]
      omega

theorem FramesFit.innermost {room : Nat} {frame : Frame} {outer : List Frame}
    (fit : FramesFit room (frame :: outer)) : frame.Fits room ∧ FramesFit (room + 1) outer := by
  cases fit with
  | cons complete around => exact ⟨complete, around⟩

theorem fits_of_beginValue? {room : Nat} {frames : List Frame} {token : Token} {next : State}
    (fit : FramesFit room frames) (read : beginValue? frames token = some next) : next.Fits := by
  have length := fit.room
  cases token with
  | openList =>
      simp only [beginValue?] at read
      split at read
      · cases read
        obtain ⟨inside, rfl⟩ : ∃ inside, room = inside + 1 := ⟨room - 1, by omega⟩
        exact ⟨inside, .cons nofun fit, trivial⟩
      · exact absurd read nofun
  | openObject =>
      simp only [beginValue?] at read
      split at read
      · cases read
        exact ⟨room, fit, show 0 < room by omega⟩
      · exact absurd read nofun
  | string s =>
      cases read
      exact ⟨room, fit, trivial, Nat.zero_le _, trivial⟩
  | word cs =>
      obtain ⟨json, found, rfl⟩ := Option.map_eq_some_iff.mp read
      exact ⟨room, fit, Token.fits_ofWord? found room⟩
  | _ => exact absurd read nofun

theorem fits_of_afterValue? {room : Nat} {json : Json} {frames : List Frame} {token : Token}
    {next : State} (fit : FramesFit room frames) (value : json.Fits room)
    (read : afterValue? json frames token = some next) : next.Fits := by
  unfold afterValue? at read
  split at read
  · next items outer =>
      cases read
      obtain ⟨complete, around⟩ := fit.innermost
      refine ⟨room, .cons ?_ around, trivial⟩
      intro item member
      rcases List.mem_cons.mp member with rfl | old
      · exact value
      · exact complete item old
  · next items outer =>
      cases read
      obtain ⟨complete, around⟩ := fit.innermost
      refine ⟨room + 1, around, fits_list fun item member => ?_⟩
      rcases List.mem_cons.mp (List.mem_reverse.mp member) with rfl | old
      · exact value
      · exact complete item old
  · next entries key outer =>
      cases read
      obtain ⟨complete, around⟩ := fit.innermost
      exact ⟨room + 1, around, room, rfl, EntriesFit.insert complete key value⟩
  · next entries key outer =>
      cases read
      obtain ⟨complete, around⟩ := fit.innermost
      exact ⟨room + 1, around, fits_object (EntriesFit.insert complete key value)⟩
  · exact absurd read nofun

/-- **One token keeps everything that has been read well formed.** -/
theorem fits_of_step? {state next : State} {token : Token} (fits : state.Fits)
    (read : step? state token = some next) : next.Fits := by
  obtain ⟨frames, expected⟩ := state
  obtain ⟨room, fit, known⟩ := fits
  cases expected with
  | value => exact fits_of_beginValue? fit read
  | item =>
      simp only [step?, beginItem?] at read
      split at read
      · cases read
        obtain ⟨complete, around⟩ := fit.innermost
        refine ⟨room + 1, around, fits_list fun item member => ?_⟩
        exact complete item (List.mem_reverse.mp member)
      · exact fits_of_beginValue? fit read
  | firstKey =>
      obtain ⟨inside, rfl⟩ : ∃ inside, room = inside + 1 := ⟨room - 1, by
        have := show 0 < room from known
        omega⟩
      simp only [step?] at read
      split at read
      · cases read
        exact ⟨inside + 1, fit, fits_object (entriesFit_nil inside)⟩
      · cases read
        exact ⟨inside + 1, fit, inside, rfl, entriesFit_nil inside⟩
      · exact absurd read nofun
  | key entries =>
      simp only [step?] at read
      split at read
      · cases read
        exact ⟨room, fit, known⟩
      · exact absurd read nofun
  | colon entries key =>
      obtain ⟨inside, rfl, complete⟩ := known
      simp only [step?] at read
      split at read
      · cases read
        exact ⟨inside, .cons complete fit, trivial⟩
      · exact absurd read nofun
  | delimiter json => exact fits_of_afterValue? fit known read

/-- What is read to the end of the text is well formed. -/
theorem fits_of_run {state : State} {ts : List Token} {json : Json} (fits : state.Fits)
    (read : run state ts = some json) : json.Fits greatestDepth := by
  induction ts generalizing state with
  | nil =>
      unfold run finish? at read
      split at read
      · cases read
        obtain ⟨room, fit, known⟩ := fits
        cases fit
        exact known
      · cases read
  | cons token ts inductionHypothesis =>
      obtain ⟨next, step, later⟩ := Option.bind_eq_some_iff.mp read
      exact inductionHypothesis (fits_of_step? fits step) later

end Reader

/-- **A document that is read names no key twice, is no deeper than the reader allows, and has
finite numbers only.** -/
theorem fits_of_ofChars? {cs : List Char} {json : Json} (read : ofChars? cs = some json) :
    json.Fits Reader.greatestDepth := by
  obtain ⟨ts, -, run⟩ := Option.bind_eq_some_iff.mp read
  have started : Reader.State.Fits ⟨[], .value⟩ := ⟨Reader.greatestDepth, .nil, trivial⟩
  exact Reader.fits_of_run started run

end Json
end PathQuery
