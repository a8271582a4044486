import Mathlib.Data.Countable.Basic
import Mathlib.Logic.Encodable.Pi
import Mathlib.Logic.Equiv.List
import TokenStudio.CodeLib.AtomicReplace
import TokenStudio.FileWorkflows

/-!
# The shared files as bytes

`write_json_atomic` and `write_private_json_atomic` write the JSON text of a value to a
temporary file, piece by piece, and rename it.  The replay cache and the governance state
are kept in this way.  `FileWorkflows` takes such a file as a value.  Here it is a string
of bytes, in the setting of `AtomicReplace`: a process can stop after any piece, with an
error or in a crash, and leave a part of a document in a temporary file.

`serde_json` is a parameter.  `JsonText.RoundTrips` says that it reads back the text that
it has written, with a line feed after it.

`file_bytes_safe` has the guarantees of `FileWorkflows` for the bytes on the disk, and says
that every program that reads one of the files finds a whole document.
-/

namespace TokenStudio

/-! ## Documents -/

/-- `serde_json::to_writer_pretty` and `serde_json::from_slice` at a type. -/
structure JsonText (α : Type) where
  toWriterPretty : α → Bytes
  fromSlice : Bytes → JsonFile α

namespace JsonText

variable {α : Type}

/-- The text of a file: the JSON text and `b"\n"`. -/
def fileText (J : JsonText α) (value : α) : Bytes := J.toWriterPretty value ++ [0x0a]

/-- A text that was written reads back. -/
def RoundTrips (J : JsonText α) : Prop := ∀ value, J.fromSlice (J.fileText value) = .holds value

/-- A file with the JSON text of a value. -/
def document (J : JsonText α) : AtomicReplace.Document (JsonFile α) where
  read
    | none => .absent
    | some bytes => J.fromSlice bytes
  write
    | .holds value => J.fileText value
    | _ => []

end JsonText

/-- The replay cache is only replaced by documents. -/
theorem verifyPlan_holds {P : Primitives} {path : String} {args : VerifyArgs}
    {file file' : JsonFile ReplayCacheFile} {outcome : VerifyOutcome}
    (h : verifyPlan P path args file = .ok (outcome, file')) : ∃ stored, file' = .holds stored := by
  simp only [verifyPlan, Outcome.bind_eq_ok, Outcome.pure_eq, Outcome.ok.injEq,
    Prod.mk.injEq] at h
  obtain ⟨gate, -, -, -, cache, -, verified, -, -, -, -, rfl⟩ := h
  exact ⟨_, rfl⟩

/-- So is the governance state. -/
theorem GovernanceCommand.plan_holds {P : Primitives} {path : String}
    {command : GovernanceCommand} {file file' : JsonFile GovernanceState}
    {reply : GovernanceReply} (h : command.plan P path file = .ok (reply, file')) :
    ∃ stored, file' = .holds stored := by
  cases command with
  | challenge args =>
    simp only [plan, GovernanceCli.issueChallenge, Outcome.bind_eq_ok, Outcome.exists_unit,
      Outcome.pure_eq, Outcome.ok.injEq, Prod.mk.injEq, Prod.exists] at h
    obtain ⟨challenge, next, ⟨gate, -, root, -, -, state, -, -, clock, -, issued, -, -, -, hnext⟩,
      -, rfl⟩ := h
    exact ⟨_, hnext.symm⟩
  | cast args =>
    simp only [plan, GovernanceCli.castVote, Outcome.bind_eq_ok, Outcome.exists_unit,
      Outcome.pure_eq, Outcome.ok.injEq, Prod.mk.injEq, Prod.exists] at h
    obtain ⟨outcome, next, ⟨gate, -, envelope, -, -, state, -, -, clock, -, cast, -, -, -, hnext⟩,
      -, rfl⟩ := h
    exact ⟨_, hnext.symm⟩

/-! ## The files on the disk -/

section

open AtomicReplace

variable {π ρ ι ε α β : Type} {J : JsonText β}
  {plan : ι → JsonFile β → Outcome ε (α × JsonFile β)} {input : π → ι} {target : ρ}
  {temporary : π → ρ} {start d d' : Disk π ρ (JsonFile β) α}

/-- What a program finds in the shared file. -/
def JsonText.content (J : JsonText β) (target : ρ) (d : Disk π ρ (JsonFile β) α) : JsonFile β :=
  J.document.read (d.files target)

/-- The world that a disk shows to the programs. -/
def JsonText.world (J : JsonText β) (target : ρ) (d : Disk π ρ (JsonFile β) α) :
    LockedFile.World π (JsonFile β) α where
  file := J.content target d
  lock := d.lock
  temporary _ := none
  phase p := (d.phase p).abstract
  reports := d.reports

/-- The shared file is as it was at the start, or it is a whole document. -/
def JsonText.Whole (J : JsonText β) (target : ρ) (start d : Disk π ρ (JsonFile β) α) : Prop :=
  d.files target = start.files target ∨ ∃ value, d.files target = some (J.fileText value)

/-- The world of a disk that is related to a world is that world, but for the temporary
files. -/
theorem world_of_refines {w : LockedFile.World π (JsonFile β) α} {bytes : Option Bytes}
    (h : Refines plan J.document target temporary bytes d w) :
    J.world target d = { w with temporary := fun _ => none } := by
  unfold JsonText.world
  rw [h.reports, h.file, h.lock, show w.phase = fun p => (d.phase p).abstract from funext h.phase]
  rfl

/-- A related disk has a whole document. -/
theorem whole_of_refines {w : LockedFile.World π (JsonFile β) α}
    (hholds : ∀ i file value file', plan i file = .ok (value, file') →
      ∃ stored, file' = .holds stored)
    (h : Refines plan J.document target temporary (start.files target) d w) :
    J.Whole target start d := by
  refine h.whole.imp_right ?_
  rintro ⟨next, ⟨i, content, value, hplan⟩, hfile⟩
  obtain ⟨stored, rfl⟩ := hholds i content value next hplan
  exact ⟨stored, hfile⟩

/-- What `serde_json` reads back is what the programs write. -/
theorem JsonText.readable (hJ : J.RoundTrips)
    (hholds : ∀ i file value file', plan i file = .ok (value, file') →
      ∃ stored, file' = .holds stored)
    (next : JsonFile β) (h : Planned plan next) :
    J.document.read (some (J.document.write next)) = next := by
  obtain ⟨i, content, value, hplan⟩ := h
  obtain ⟨stored, rfl⟩ := hholds i content value next hplan
  exact hJ stored

variable [DecidableEq π] [DecidableEq ρ]

/-- Two states of a run on a disk are those of a run of processes on a value. -/
theorem exists_worlds (hJ : J.RoundTrips)
    (hholds : ∀ i file value file', plan i file = .ok (value, file') →
      ∃ stored, file' = .holds stored)
    (hne : ∀ p, temporary p ≠ target) (hfresh : start.Fresh)
    (hsteps : Steps plan input J.document target temporary start d)
    (hlater : Steps plan input J.document target temporary d d') :
    J.Whole target start d ∧ ∃ w₀ w w' : LockedFile.World π (JsonFile β) α, w₀.Fresh ∧
      w₀.file = J.content target start ∧
      LockedFile.Steps plan input w₀ w ∧ LockedFile.Steps plan input w w' ∧
      J.world target d = { w with temporary := fun _ => none } ∧
      J.world target d' = { w' with temporary := fun _ => none } := by
  have hread := JsonText.readable hJ hholds
  have hstart : Refines plan J.document target temporary (start.files target) start _ :=
    Refines.fresh hfresh
  obtain ⟨w, hworld, hrefines⟩ := hstart.steps hne hread hsteps
  obtain ⟨w', hworld', hrefines'⟩ := hrefines.steps hne hread hlater
  exact ⟨whole_of_refines hholds hrefines, _, w, w', ⟨rfl, fun _ => rfl, rfl⟩, rfl, hworld, hworld',
    world_of_refines hrefines, world_of_refines hrefines'⟩

end

open AtomicReplace in
/-- The shared files are safe as bytes.  In every run of processes that share a replay cache
or a governance state, with steps in any order and stops at any piece of a document,
every state shows a whole document or the file of the start, and what the programs
find in it keeps what `CacheKept` and `GovernanceKept` say: no accepted
presentation, no vote and no consumed challenge is ever lost or counted twice. -/
theorem file_bytes_safe {J : JsonText ReplayCacheFile} {G : JsonText GovernanceState}
    (hJ : J.RoundTrips) (hG : G.RoundTrips) (P : Primitives) (path : String) {π ρ : Type}
    [DecidableEq π] [DecidableEq ρ] {target : ρ} {temporary : π → ρ}
    (hne : ∀ p, temporary p ≠ target) :
    (∀ (input : π → VerifyArgs) (start d d' : Disk π ρ (JsonFile ReplayCacheFile) VerifyOutcome),
        start.Fresh → Steps (verifyPlan P path) input J.document target temporary start d →
        Steps (verifyPlan P path) input J.document target temporary d d' →
        J.Whole target start d ∧
          CacheKept P path input (J.world target d) (J.world target d')) ∧
      ∀ (input : π → GovernanceCommand)
        (start d d' : Disk π ρ (JsonFile GovernanceState) GovernanceReply), start.Fresh →
        Steps (GovernanceCommand.plan P path) input G.document target temporary start d →
        Steps (GovernanceCommand.plan P path) input G.document target temporary d d' →
        G.Whole target start d ∧
          ∃ log more, GovernanceKept P path input (G.content target start) (G.world target d)
            (G.world target d') log more := by
  refine ⟨?_, ?_⟩
  · intro input start d d' hfresh hsteps hlater
    obtain ⟨hwhole, w₀, w, w', hfresh', -, hworld, hworld', heq, heq'⟩ :=
      exists_worlds hJ (fun _ _ _ _ => verifyPlan_holds) hne hfresh hsteps hlater
    have hkept := cacheKept hfresh' hworld hworld'
    rw [heq, heq']
    exact ⟨hwhole, hkept.stored, hkept.once, hkept.grows⟩
  · intro input start d d' hfresh hsteps hlater
    obtain ⟨hwhole, w₀, w, w', hfresh', hstart, hworld, hworld', heq, heq'⟩ :=
      exists_worlds hG (fun _ _ _ _ => GovernanceCommand.plan_holds) hne hfresh hsteps hlater
    obtain ⟨log, more, hkept⟩ := governanceKept hfresh' hworld hworld'
    rw [heq, heq', ← hstart]
    refine ⟨hwhole, log, more, ?_⟩
    obtain ⟨hserialized, hserialized', hvotes, honce, hcounted, hconsumed⟩ := hkept
    exact ⟨⟨hserialized.nodup, hserialized.started, hserialized.reported, hserialized.results,
      hserialized.file⟩, ⟨hserialized'.nodup, hserialized'.started, hserialized'.reported,
      hserialized'.results, hserialized'.file⟩, hvotes, honce, hcounted, hconsumed⟩

/-! ### A text for every value

The values of both files can be numbered, and the text of a value is its number in
blanks. -/

/-- The text that stands for numbers. -/
noncomputable def JsonText.ofNumbers {β : Type} (number : β → Nat) : JsonText β where
  toWriterPretty value := List.replicate (number value) 0x20
  fromSlice bytes :=
    match Function.partialInv number (bytes.length - 1) with
    | some value => .holds value
    | none => .malformed "expected value at line 1 column 1"

theorem JsonText.ofNumbers_roundTrips {β : Type} {number : β → Nat}
    (h : Function.Injective number) : (JsonText.ofNumbers number).RoundTrips := by
  intro value
  have hlength : (fileText (ofNumbers number) value).length - 1 = number value := by
    simp [fileText, ofNumbers]
  show (match Function.partialInv number ((fileText (ofNumbers number) value).length - 1) with
    | some value => JsonFile.holds value
    | none => .malformed "expected value at line 1 column 1") = _
  rw [hlength, Function.partialInv_left h]

theorem JsonText.exists_roundTrips (β : Type) [Countable β] : ∃ J : JsonText β, J.RoundTrips := by
  obtain ⟨number, hnumber⟩ := exists_injective_nat β
  exact ⟨_, JsonText.ofNumbers_roundTrips hnumber⟩

instance countableString : Countable String := by
  have hchar : Countable Char :=
    Function.Injective.countable (f := Char.toNat) fun _ _ h => Char.toNat_inj.mp h
  exact Function.Injective.countable (f := String.toList) fun _ _ h => String.toList_inj.mp h

instance countableUInt8 : Countable UInt8 :=
  Function.Injective.countable (f := UInt8.toNat) fun _ _ h => UInt8.toNat_inj.mp h

instance countableUInt16 : Countable UInt16 :=
  Function.Injective.countable (f := UInt16.toNat) fun _ _ h => UInt16.toNat_inj.mp h

instance countableUInt64 : Countable UInt64 :=
  Function.Injective.countable (f := UInt64.toNat) fun _ _ h => UInt64.toNat_inj.mp h

instance countableReplayCacheFile : Countable ReplayCacheFile := by
  refine Function.Injective.countable
    (f := fun file : ReplayCacheFile => (file.version, file.consumedChallenges)) ?_
  intro file file' h
  cases file
  cases file'
  simpa using h

instance countableVerificationChallenge : Countable VerificationChallenge := by
  refine Function.Injective.countable
    (f := fun c : VerificationChallenge => (c.version, c.gateContextHash,
      c.expectedCommitmentRoot, c.verifierId, c.nonce, c.issuedAtUnixMs, c.expiresAtUnixMs)) ?_
  intro c c' h
  cases c
  cases c'
  simpa using h

instance countableVoteChoice : Countable VoteChoice := by
  refine Function.Injective.countable
    (f := fun choice : VoteChoice => (decide (choice = .yes), decide (choice = .no))) ?_
  intro choice choice'
  cases choice <;> cases choice' <;> decide

instance countableVoteRecord : Countable VoteRecord := by
  refine Function.Injective.countable
    (f := fun record : VoteRecord => (record.choice, record.castAtUnixMs)) ?_
  intro record record' h
  cases record
  cases record'
  simpa using h

instance countableGovernanceState : Countable GovernanceState := by
  refine Function.Injective.countable
    (f := fun s : GovernanceState => (s.version, s.proposalId, s.gateContextHash,
      s.pendingChallenges.toList, s.consumedChallenges, s.votes.toList)) ?_
  intro s s' h
  cases s
  cases s'
  simpa [Std.ExtTreeMap.toList_inj] using h

/-- A disk without files, with two processes. -/
def emptyDisk (σ α : Type) : AtomicReplace.Disk Bool Nat (JsonFile σ) α where
  files _ := none
  lock := none
  phase _ := .ready
  reports := []

/-- A process leaves a whole document with its digest. -/
theorem file_bytes_safe_founders : ∃ (J : JsonText ReplayCacheFile)
    (d : AtomicReplace.Disk Bool Nat (JsonFile ReplayCacheFile) VerifyOutcome),
    d.reports = [(true, ⟨foundersRequest.attestation, 1⟩)] ∧
      J.Whole 0 (emptyDisk _ _) d ∧ ∃ digest, foundersArgs.digest foundersPrimitives = some digest ∧
        digest ∈ storedDigests "replay.json" (J.content 0 d) := by
  obtain ⟨J, hJ⟩ := JsonText.exists_roundTrips ReplayCacheFile
  obtain ⟨G, hG⟩ := JsonText.exists_roundTrips GovernanceState
  have hfresh : (emptyDisk ReplayCacheFile VerifyOutcome).Fresh := ⟨rfl, fun _ => rfl, rfl⟩
  obtain ⟨d, hsteps, -, -, hreports, -⟩ := AtomicReplace.exists_steps_of_plan
    (fun _ : Bool => foundersArgs) J.document 0 (fun _ => 1) (d := emptyDisk _ _) (p := true) rfl
    rfl verifyPlan_founders
    (List.append_ne_nil_of_right_ne_nil _ (List.cons_ne_nil _ _))
  obtain ⟨hwhole, hkept⟩ := (file_bytes_safe hJ hG foundersPrimitives "replay.json"
    (show ∀ p : Bool, (fun _ : Bool => 1) p ≠ 0 from fun _ => Nat.one_ne_zero)).1
    (fun _ => foundersArgs) _ d d hfresh hsteps .refl
  have hmem : (true, ⟨foundersRequest.attestation, 1⟩) ∈ (J.world 0 d).reports := by
    show _ ∈ d.reports
    rw [hreports]
    exact List.mem_singleton_self _
  exact ⟨J, d, hreports, hwhole, hkept.stored _ hmem⟩

end TokenStudio
