import SmmErrorLogger.Storer.RetentionPolicy

/-! The notifier: a D-Bus object shows the path of every log entry that was accepted, one after
another. -/

namespace SmmErrorLogger.Storer

open Library Library.Interaction
open Library.Interaction.Proc

inductive DbusOp
  | addInterface (path interface : Text)
  | registerProperty (pathIface : ℕ) (name value : Text)
  | initializeIface (pathIface : ℕ)
  | removeInterface (pathIface : ℕ)

abbrev DbusCalls : Signature where
  Op := DbusOp
  Ans
    | .addInterface _ _ => ℕ
    | .registerProperty _ _ _ => Unit
    | .initializeIface _ => Unit
    | .removeInterface _ => Unit

structure CperFileNotifierHandler where
  nextEntry : UInt64

abbrev NotifierM := Proc DbusCalls CperFileNotifierHandler Empty

structure CperFileNotifier where
  pathIface : ℕ

namespace CperFileNotifier

def cperBasePath : Text :=
  text "/xyz/openbmc_project/external_storer/bios_bmc_smm_error_logger/CPER"

def pathInterface : Text := text "xyz.openbmc_project.Common.FilePath"

def generatePath (entry : UInt64) : Text :=
  cperBasePath ++ text "/entry" ++ text (toString entry.toNat)

def make (filePath : Text) (entry : UInt64) : NotifierM CperFileNotifier := do
  let pathIface ← Proc.call (S := DbusCalls) (.addInterface (generatePath entry) pathInterface)
  Proc.call (S := DbusCalls) (.registerProperty pathIface (text "Path") filePath)
  Proc.call (S := DbusCalls) (.initializeIface pathIface)
  pure ⟨pathIface⟩

def destroy (notifier : CperFileNotifier) : NotifierM Unit :=
  Proc.call (S := DbusCalls) (.removeInterface notifier.pathIface)

lemma text_digits_injective : Function.Injective fun n : ℕ => text (toString n) := by
  intro m n h
  have hdigits : ∀ n : ℕ, (text (toString n)).map (fun b => Char.ofNat b.toNat) =
      Nat.toDigits 10 n := by
    intro n
    have hlist : (toString n).toList = Nat.toDigits 10 n := Nat.toList_repr
    rw [text, hlist, List.map_map]
    refine (List.map_congr_left fun c hc => ?_).trans (List.map_id _)
    have hdigit :=
      Char.isDigit_iff_toNat.mp (Nat.isDigit_of_mem_toDigits (by decide) (by decide) hc)
    have hnine : '9'.toNat = 57 := rfl
    have hbyte : (UInt8.ofNat c.toNat).toNat = c.toNat := by
      rw [UInt8.toNat_ofNat', Nat.mod_eq_of_lt (by omega)]
    rw [Function.comp_apply, hbyte, Char.ofNat_toNat, id]
  have hsame : Nat.toDigits 10 m = Nat.toDigits 10 n := by
    rw [← hdigits m, ← hdigits n, show text (toString m) = _ from h]
  have hvalue := congrArg (fun cs => Nat.ofDigitChars 10 cs 0) hsame
  simpa [Nat.ofDigitChars_toDigits] using hvalue

lemma generatePath_injective : Function.Injective generatePath := by
  intro a b h
  exact UInt64.toNat_inj.mp (text_digits_injective (List.append_cancel_left h))

end CperFileNotifier

/-- The object lives until the end of the function. -/
def CperFileNotifierHandler.createEntry (filePath : Text) : NotifierM Unit := do
  let handler ← fetch
  let obj ← CperFileNotifier.make filePath handler.nextEntry
  let handler ← fetch
  put { handler with nextEntry := handler.nextEntry + 1 }
  obj.destroy

def announcement (pathIface : ℕ) (entry : UInt64) (filePath : Text) : List (Event DbusCalls) := [
  ⟨.addInterface (CperFileNotifier.generatePath entry) CperFileNotifier.pathInterface, pathIface⟩,
  ⟨.registerProperty pathIface (text "Path") filePath, ()⟩, ⟨.initializeIface pathIface, ()⟩,
    ⟨.removeInterface pathIface, ()⟩]

def Announced (entry : ℕ) : List Text → List (Event DbusCalls) → Prop
  | [], calls => calls = []
  | filePath :: filePaths, calls => ∃ pathIface rest,
    calls = announcement pathIface (UInt64.ofNat entry) filePath ++ rest ∧
      Announced (entry + 1) filePaths rest

lemma Announced.snoc {entry : ℕ} {filePaths : List Text} {calls : List (Event DbusCalls)}
    (h : Announced entry filePaths calls) (pathIface : ℕ) (filePath : Text) :
    Announced entry (filePaths ++ [filePath])
      (calls ++ announcement pathIface (UInt64.ofNat (entry + filePaths.length)) filePath) := by
  induction filePaths generalizing entry calls with
  | nil =>
    obtain rfl : calls = [] := h
    exact ⟨pathIface, [], (List.append_nil _).symm, rfl⟩
  | cons path paths ih =>
    obtain ⟨first, rest, rfl, hrest⟩ := h
    refine ⟨first, _, List.append_assoc _ _ _, ?_⟩
    rw [List.length_cons, Nat.add_comm paths.length 1, ← Nat.add_assoc]
    exact ih hrest

section

variable {D : Type} (bus : D → (op : DbusOp) → DbusCalls.Ans op × D)

lemma createEntry_announces (filePath : Text) (handler : CperFileNotifierHandler)
    (d : D × List (Event DbusCalls)) :
    (CperFileNotifierHandler.createEntry filePath).Ensures (alone (journal (S := DbusCalls) bus))
      (fun _ handler' d' => handler'.nextEntry = handler.nextEntry + 1 ∧
        ∃ pathIface, d'.2 = d.2 ++ announcement pathIface handler.nextEntry filePath)
      (fun _ _ _ => False) handler d := by
  rw [CperFileNotifierHandler.createEntry, ensures_fetch_bind, ensures_bind, CperFileNotifier.make]
  apply call_journal (S := DbusCalls) bus
  intro pathIface d₁
  apply call_journal (S := DbusCalls) bus
  intro _ d₂
  apply call_journal (S := DbusCalls) bus
  intro _ d₃
  refine alone_pure.mpr (ensures_fetch_bind.mpr (ensures_put_bind.mpr ?_))
  refine (call_alone (f := pure)).mpr (alone_pure.mpr ⟨rfl, pathIface, ?_⟩)
  simp only [journal, announcement, List.append_assoc, List.cons_append, List.nil_append]

end

structure Notified (W D : Type) where
  files : W
  notifier : CperFileNotifierHandler
  bus : D × List (Event DbusCalls)

variable {W D : Type}

def notifying (perform : W → (op : StorerOp) → StorerCalls.Ans op × W)
    (bus : D → (op : DbusOp) → DbusCalls.Ans op × D)
    (w : Notified W D) : (op : StorerOp) → StorerCalls.Ans op × Notified W D
  | .createEntry filePath =>
    let ((_, notifier), bus) :=
      (CperFileNotifierHandler.createEntry filePath w.notifier).run
        (journal (S := DbusCalls) bus) w.bus
    ((), { w with notifier, bus })
  | op =>
    let (ans, files) := perform w.files op
    (ans, { w with files })

structure Announces (cfg : StorerConfig) (count : ℕ) (w : Notified W D × List (Event StorerCalls)) :
    Prop where
  stored : (storedEntries w.2).length = count
  nextEntry : w.1.notifier.nextEntry = UInt64.ofNat count
  announced : Announced 0 ((storedEntries w.2).map (indexPath cfg)) w.1.bus.2

variable {perform : W → (op : StorerOp) → StorerCalls.Ans op × W}
  {bus : D → (op : DbusOp) → DbusCalls.Ans op × D}
  {cfg : StorerConfig} {st : ExternalStorerFileInterface}
  {w : Notified W D × List (Event StorerCalls)} {count : ℕ}
  {j : Json} {jsonStr : Text}

abbrev announcing (perform : W → (op : StorerOp) → StorerCalls.Ans op × W)
    (bus : D → (op : DbusOp) → DbusCalls.Ans op × D) :
    Notified W D × List (Event StorerCalls) → (op : StorerOp) →
      StorerCalls.Ans op × Notified W D × List (Event StorerCalls) :=
  journaled (notifying perform bus)

namespace Announces

lemma call (h : Announces cfg count w) {op : StorerOp}
    (hop : ∀ filePath, op ≠ .createEntry filePath)
    (hstored : storedEntry ⟨op, (announcing perform bus w op).1⟩ = none) :
    Announces cfg count (announcing perform bus w op).2 := by
  have hsame : storedEntries (announcing perform bus w op).2.2 = storedEntries w.2 := by
    change List.filterMap storedEntry (w.2 ++ [⟨op, (announcing perform bus w op).1⟩]) = _
    exact filterMap_snoc_none hstored
  have hnotifier : (announcing perform bus w op).2.1.notifier = w.1.notifier ∧
      (announcing perform bus w op).2.1.bus = w.1.bus := by
    cases op with
    | createEntry filePath => exact (hop filePath rfl).elim
    | createFile | removeAll | randomGen => exact ⟨rfl, rfl⟩
  refine ⟨hsame ▸ h.stored, hnotifier.1 ▸ h.nextEntry, ?_⟩
  rw [hsame, hnotifier.2]
  exact h.announced

lemma createFile (h : Announces cfg count w) (path : Text) (hj : j.isLogEntry = false) :
    Announces cfg count (announcing perform bus w (.createFile path j)).2 := by
  apply h.call (by simp)
  rcases (announcing perform bus w (.createFile path j)).1
    with (- | -) | - <;> simp [storedEntry, hj]

lemma deleteOldest (h : Announces cfg count w) :
    (deleteOldest cfg).Ensures (alone (announcing perform bus)) (fun _ _ => Announces cfg count)
      (fun _ _ => Announces cfg count) st w := by
  refine deleteOldest_over (fun _ => h) (fun _ _ => h) fun oldest rest _ _ => ?_
  have hcall : Announces cfg count (announcing perform bus w (.removeAll oldest)).2 :=
    h.call (by simp) rfl
  exact removeAll_over (fun _ _ => hcall) fun _ => hcall

lemma entry (h : Announces cfg count w) {subPath : Text} (hj : j.isLogEntry)
    (hcreated : (announcing perform bus w (.createFile subPath j)).1 = FileResult.done true) :
    let w₁ := (announcing perform bus w (.createFile subPath j)).2
    Announces cfg (count + 1)
      (announcing perform bus w₁ (.createEntry (indexPath cfg subPath))).2 := by
  intro w₁
  have hstored : storedEntries w₁.2 = storedEntries w.2 ++ [subPath] := by
    change storedEntries
      (w.2 ++ [⟨.createFile subPath j, (announcing perform bus w (.createFile subPath j)).1⟩]) = _
    rw [hcreated, storedEntries_logEntry hj]
  have hsame : storedEntries
    (announcing perform bus w₁ (.createEntry (indexPath cfg subPath))).2.2 =
      storedEntries w₁.2 := filterMap_snoc_none rfl
  obtain ⟨_, handler', d', hrun, hnext, pathIface, hcalls⟩ :=
    (createEntry_announces bus (indexPath cfg subPath) w₁.1.notifier w₁.1.bus).exists_run
  have hnotifier : (announcing perform bus w₁ (.createEntry (indexPath cfg subPath))).2.1.notifier =
    handler' ∧ (announcing perform bus w₁ (.createEntry (indexPath cfg subPath))).2.1.bus = d' :=
    ⟨congrArg (fun r => r.1.2) hrun, congrArg Prod.snd hrun⟩
  refine ⟨?_, ?_, ?_⟩
  · rw [hsame, hstored, List.length_append, h.stored, List.length_singleton]
  · have hbefore : w₁.1.notifier = w.1.notifier := rfl
    rw [hnotifier.1, hnext, hbefore, h.nextEntry, UInt64.ofNat_add]
    rfl
  · have hbefore : w₁.1.notifier = w.1.notifier ∧ w₁.1.bus = w.1.bus := ⟨rfl, rfl⟩
    have hannounced := h.announced.snoc pathIface (indexPath cfg subPath)
    rw [List.length_map, h.stored, Nat.zero_add] at hannounced
    rw [hsame, hstored, List.map_append, hnotifier.2, hcalls, hbefore.1, hbefore.2, h.nextEntry]
    exact hannounced

lemma processLogEntry (h : Announces cfg count w) (hj : j.isLogEntry) :
    (processLogEntry cfg j).Ensures (alone (announcing perform bus))
      (fun result _ => Announces cfg (count + if result then 1 else 0))
        (fun _ _ => Announces cfg count) st w := by
  refine processLogEntry_over (D := fun _ => Announces cfg count) (fun _ => h)
    (fun _ => h.deleteOldest.mono (fun deleted _ _ h₁ => ?_) fun _ _ _ hX => hX) fun st₁ w₁ h₁ => ?_
  · cases deleted <;> exact h₁
  have h₂ : Announces cfg count (announcing perform bus w₁ .randomGen).2 := h₁.call (by simp) rfl
  refine createFile_over (fun created hcreated => ?_) fun hthrew => ?_
  · cases created with
    | true => exact h₂.entry (isLogEntry_logEntryDocument _ hj) hcreated
    | false =>
      refine h₂.call (by simp) ?_
      rw [hcreated]
      rfl
  · refine h₂.call (by simp) ?_
    rw [hthrew]
    rfl

lemma publishJson (h : Announces cfg count w) :
    (publishJson cfg jsonStr).Ensures (alone (announcing perform bus))
    (fun result _ => Announces cfg
      (count + if logEntryText cfg jsonStr ∧ result = true then 1 else 0))
    (fun _ _ => Announces cfg count) st w := by
  by_cases htext : logEntryText cfg jsonStr
  · obtain ⟨j, hparse, hj⟩ := logEntryText_iff.mp htext
    rw [publishJson_logEntry hparse hj]
    simpa [htext] using h.processLogEntry hj
  · refine (publishJson_keeps (I := fun _ => Announces cfg count) (by simpa using htext)
      (fun _ _ _ _ _ h => h) (fun _ _ path j hj h => ?_) h).mono
      (fun _ _ _ hQ => ?_) fun _ _ _ hX => hX.2
    · exact createFile_over (fun _ _ => h.createFile path hj) fun _ =>
        ⟨by simp, h.createFile path hj⟩
    · simpa [htext] using hQ

end Announces

def objectPath : Event DbusCalls → Option Text
  | ⟨.addInterface path _, _⟩ => some path
  | _ => none

def objectPaths (calls : List (Event DbusCalls)) : List Text := calls.filterMap objectPath

lemma Announced.objectPaths_eq {entry : ℕ} {filePaths : List Text} {calls : List (Event DbusCalls)}
    (h : Announced entry filePaths calls) : objectPaths calls =
      (List.range' entry filePaths.length).map fun n =>
        CperFileNotifier.generatePath (UInt64.ofNat n) := by
  induction filePaths generalizing entry calls with
  | nil =>
    obtain rfl : calls = [] := h
    rfl
  | cons path paths ih =>
    obtain ⟨pathIface, rest, rfl, hrest⟩ := h
    rw [objectPaths, List.filterMap_append]
    exact congrArg (CperFileNotifier.generatePath (UInt64.ofNat entry) :: ·) (ih hrest)

lemma Announced.nodup {filePaths : List Text} {calls : List (Event DbusCalls)}
    (h : Announced 0 filePaths calls)
    (hlength : filePaths.length ≤ 2 ^ 64) : (objectPaths calls).Nodup := by
  rw [h.objectPaths_eq]
  apply List.Nodup.map_on ?_ List.nodup_range'
  intro m hm n hn hpath
  have hm' := (List.mem_range'_1.mp hm).2
  have hn' := (List.mem_range'_1.mp hn).2
  have hentry := congrArg UInt64.toNat (CperFileNotifier.generatePath_injective hpath)
  rwa [UInt64.toNat_ofNat', UInt64.toNat_ofNat', Nat.mod_eq_of_lt (by omega),
    Nat.mod_eq_of_lt (by omega)] at hentry

theorem publish_announces (cfg : StorerConfig)
    (perform : W → (op : StorerOp) → StorerCalls.Ans op × W)
    (bus : D → (op : DbusOp) → DbusCalls.Ans op × D) (w : W) (d : D) (jsonStrs : List Text) :
    let outcome :=
      Machine.run (publishOver cfg (announcing perform bus)) (.fresh, ⟨w, ⟨0⟩, d, []⟩, []) jsonStrs
    let entries := storedEntries outcome.2.2.2
    let calls := outcome.2.2.1.bus.2
    entries.length = acceptedCount cfg jsonStrs outcome.1 ∧
      Announced 0 (entries.map (indexPath cfg)) calls ∧
      (entries.length ≤ 2 ^ 64 → (objectPaths calls).Nodup) := by
  intro outcome entries calls
  have hrun : outcome.1.length = jsonStrs.length ∧
      Announces cfg (acceptedCount cfg jsonStrs outcome.1) outcome.2.2 := by
    let I (is : List Text) (os : List (Except StorerError Bool))
        (state : ExternalStorerFileInterface × Notified W D × List (Event StorerCalls)) : Prop :=
      os.length = is.length ∧ Announces cfg (acceptedCount cfg is os) state.2
    have hnil : I [] [] (.fresh, ⟨w, ⟨0⟩, d, []⟩, []) := ⟨rfl, rfl, rfl, rfl⟩
    refine Machine.run_history (P := fun _ _ => True) hnil ?_
      (Machine.along_of_forall fun _ _ => trivial)
    rintro is jsonStr ran - ⟨hlength, hannounces⟩
    refine ⟨by simp [hlength], ?_⟩
    have hens : (publishJson cfg jsonStr).Ensures (alone (announcing perform bus)) _ _
        ran.2.1 ran.2.2 :=
      hannounces.publishJson
    have hends := publishOver_ends hens
    rw [acceptedCount_snoc hlength]
    rcases hresult : (publishOver cfg (announcing perform bus) ran.2 jsonStr).1 with e | result
    · rw [hresult] at hends
      rw [if_neg (by simp)]
      exact hends
    · rw [hresult] at hends
      simpa only [Except.ok.injEq] using show Announces _ _ _ from hends
  have hannounces := hrun.2
  refine ⟨hannounces.stored, hannounces.announced, fun hlength => hannounces.announced.nodup ?_⟩
  rw [List.length_map]
  exact hlength

end SmmErrorLogger.Storer
