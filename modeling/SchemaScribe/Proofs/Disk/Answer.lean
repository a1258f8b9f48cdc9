import SchemaScribe.Disk.Volume
import SchemaScribe.Proofs.Disk.Path
import SchemaScribe.Proofs.Outcome

/-!
# What actions answer

An action on a volume answers something (`answer`) and leaves a volume behind (`after`).  Both go
along sequences of actions, and the answers of a sequence are a sequence of outcomes, so that the
laws of outcomes apply to them.  An action that only looks leaves the volume as it is (`IsQuiet`).

The second part says what looking answers: whether something is there, the text of a file, and where
a path leads.
-/

namespace SchemaScribe.Disk

variable {ε ε' α β : Type}

/-! ### Answers and volumes left behind -/

/-- **What an action answers on a volume.** -/
def answer (action : ExceptT ε (StateM Volume) α) (volume : Volume) : Except ε α :=
  (action.run.run volume).1

/-- **The volume that an action leaves behind.** -/
def after (action : ExceptT ε (StateM Volume) α) (volume : Volume) : Volume :=
  (action.run.run volume).2

theorem answer_bind (x : ExceptT ε (StateM Volume) α) (f : α → ExceptT ε (StateM Volume) β)
    (volume : Volume) :
    answer (x >>= f) volume = answer x volume >>= fun a => answer (f a) (after x volume) := by
  simp only [answer, after, ExceptT.run_bind, StateT.run_bind]
  cases x.run.run volume with
  | mk result next => cases result <;> simp <;> rfl

theorem after_bind_of_ok {x : ExceptT ε (StateM Volume) α} {volume : Volume} {a : α}
    (h : answer x volume = .ok a) (f : α → ExceptT ε (StateM Volume) β) :
    after (x >>= f) volume = after (f a) (after x volume) := by
  simp only [answer, after, ExceptT.run_bind, StateT.run_bind] at h ⊢
  cases hx : x.run.run volume with
  | mk result next =>
    rw [hx] at h
    obtain rfl : result = .ok a := h
    rfl

theorem after_bind_of_error {x : ExceptT ε (StateM Volume) α} {volume : Volume} {e : ε}
    (h : answer x volume = .error e) (f : α → ExceptT ε (StateM Volume) β) :
    after (x >>= f) volume = after x volume := by
  simp only [answer, after, ExceptT.run_bind, StateT.run_bind] at h ⊢
  cases hx : x.run.run volume with
  | mk result next =>
    rw [hx] at h
    obtain rfl : result = .error e := h
    rfl

theorem answer_adapt (g : ε → ε') (x : ExceptT ε (StateM Volume) α) (volume : Volume) :
    answer (ExceptT.adapt g x) volume = (answer x volume).mapError g := rfl

theorem after_lift (x : StateM Volume α) (volume : Volume) :
    after (liftM x : ExceptT ε (StateM Volume) α) volume = (x.run volume).2 := rfl

/-- A sequence goes on with what its first step came to. -/
theorem run_bind_of_run {x : StateM Volume α} {volume next : Volume} {a : α}
    (h : x.run volume = (a, next)) (f : α → StateM Volume β) :
    (x >>= f).run volume = (f a).run next := by
  rw [StateT.run_bind, h]
  rfl

/-- The same where the first step belongs to the disk alone. -/
theorem run_lift_bind_of_run {x : StateM Volume α} {volume next : Volume} {a : α}
    (h : x.run volume = (a, next)) (f : α → ExceptT ε (StateM Volume) β) :
    (liftM x >>= f).run.run volume = (f a).run.run next := by
  have hlift : (liftM x : ExceptT ε (StateM Volume) α).run.run volume =
      (.ok (x.run volume).1, (x.run volume).2) := rfl
  rw [h] at hlift
  rw [ExceptT.run_bind, run_bind_of_run hlift]

/-- Where a fault is caught, things go on from the volume that the first attempt left behind. -/
theorem run_tryCatch_of_error {x : ExceptT ε (StateM Volume) α} {volume : Volume} {e : ε}
    (h : answer x volume = .error e) (f : ε → ExceptT ε (StateM Volume) α) :
    (tryCatch x f).run.run volume = (f e).run.run (after x volume) := by
  simp only [answer, after, ExceptT.run_tryCatch, StateT.run_bind] at h ⊢
  cases hx : x.run.run volume with
  | mk result next =>
    rw [hx] at h
    obtain rfl : result = .error e := h
    rfl

theorem run_tryCatch_of_ok {x : ExceptT ε (StateM Volume) α} {volume : Volume} {a : α}
    (h : answer x volume = .ok a) (f : ε → ExceptT ε (StateM Volume) α) :
    (tryCatch x f).run.run volume = x.run.run volume := by
  simp only [answer, ExceptT.run_tryCatch, StateT.run_bind] at h ⊢
  cases hx : x.run.run volume with
  | mk result next =>
    rw [hx] at h
    obtain rfl : result = .ok a := h
    rfl

/-! ### Actions that only look -/

/-- **An action that only looks**: every volume is left as it is. -/
def IsQuiet (action : ExceptT ε (StateM Volume) α) : Prop :=
  ∀ volume, after action volume = volume

theorem isQuiet_pure (a : α) : IsQuiet (pure a : ExceptT ε (StateM Volume) α) := fun _ => rfl

theorem isQuiet_throw (e : ε) : IsQuiet (throw e : ExceptT ε (StateM Volume) α) := fun _ => rfl

theorem IsQuiet.bind {x : ExceptT ε (StateM Volume) α} {f : α → ExceptT ε (StateM Volume) β}
    (hx : IsQuiet x) (hf : ∀ a, IsQuiet (f a)) : IsQuiet (x >>= f) := by
  intro volume
  cases h : answer x volume with
  | ok a => rw [after_bind_of_ok h, hx, hf]
  | error e => rw [after_bind_of_error h, hx]

theorem IsQuiet.adapt {x : ExceptT ε (StateM Volume) α} (hx : IsQuiet x) (g : ε → ε') :
    IsQuiet (ExceptT.adapt g x) := hx

/-- Where all that follows only looks, the first step alone changes the volume. -/
theorem after_bind_of_isQuiet {f : α → ExceptT ε (StateM Volume) β} (hf : ∀ a, IsQuiet (f a))
    (x : ExceptT ε (StateM Volume) α) (volume : Volume) :
    after (x >>= f) volume = after x volume := by
  cases h : answer x volume with
  | ok a => rw [after_bind_of_ok h, hf]
  | error e => rw [after_bind_of_error h]

theorem IsQuiet.answer_bind {x : ExceptT ε (StateM Volume) α} (hx : IsQuiet x)
    (f : α → ExceptT ε (StateM Volume) β) (volume : Volume) :
    answer (x >>= f) volume = answer x volume >>= fun a => answer (f a) volume := by
  rw [Disk.answer_bind, hx]

/-! ### How actions fail -/

/-- **An action fails with faults of one kind alone**, on whatever volume. -/
def FailsWith (kind : ε → Prop) (action : ExceptT ε (StateM Volume) α) : Prop :=
  ∀ volume fault, answer action volume = .error fault → kind fault

namespace FailsWith

variable {kind : ε → Prop}

theorem pure (a : α) : FailsWith kind (Pure.pure a) := fun _ _ h => by cases h

theorem throw {fault : ε} (hfault : kind fault) :
    FailsWith kind (MonadExcept.throw fault : ExceptT ε (StateM Volume) α) := fun _ _ h => by
  cases h
  exact hfault

theorem lift (x : StateM Volume α) : FailsWith kind (liftM x : ExceptT ε (StateM Volume) α) :=
  fun _ _ h => by cases h

theorem bind {x : ExceptT ε (StateM Volume) α} {f : α → ExceptT ε (StateM Volume) β}
    (hx : FailsWith kind x) (hf : ∀ a, FailsWith kind (f a)) : FailsWith kind (x >>= f) := by
  intro volume fault h
  rw [Disk.answer_bind] at h
  rcases bind_eq_error_iff.1 h with h | ⟨a, -, h⟩
  · exact hx _ _ h
  · exact hf a _ _ h

theorem tryCatch {x : ExceptT ε (StateM Volume) α} {f : ε → ExceptT ε (StateM Volume) α}
    (hf : ∀ fault, kind fault → FailsWith kind (f fault)) (hx : FailsWith kind x) :
    FailsWith kind (tryCatch x f) := by
  intro volume fault h
  cases hfirst : answer x volume with
  | ok a =>
    rw [answer, run_tryCatch_of_ok hfirst f] at h
    cases hfirst.symm.trans h
  | error first =>
    rw [answer, run_tryCatch_of_error hfirst f] at h
    exact hf first (hx _ _ hfirst) _ _ h

end FailsWith

/-! ### What looking answers -/

variable {path : Path} {volume : Volume}

theorem isQuiet_find? : IsQuiet (find? path : ExceptT DiskFault (StateM Volume) _) := by
  rw [find?]
  split
  · exact isQuiet_pure _
  · refine IsQuiet.bind (fun _ => rfl) fun found => ?_
    cases found with
    | ok kind => exact isQuiet_pure _
    | error refusal => exact fun volume => by dsimp only; split <;> rfl

theorem answer_kind :
    answer (liftM (kind path : StateM Volume _) : ExceptT DiskFault (StateM Volume) _) volume =
      .ok ((volume.find path).map Entry.kind) := rfl

theorem answer_find?_of_ok (h : path.isPassable = true) {entry : Entry}
    (hf : volume.find path = .ok entry) :
    answer (find? path) volume = .ok (some entry.kind) := by
  rw [find?, if_neg (by simp [h]), answer_bind, answer_kind, hf]
  rfl

theorem answer_find?_of_error (h : path.isPassable = true) {refusal : Refusal}
    (hf : volume.find path = .error refusal) :
    answer (find? path) volume =
      if meansAbsent refusal then .ok none else .error (.refused refusal path) := by
  rw [find?, if_neg (by simp [h]), answer_bind, answer_kind, hf]
  cases hr : meansAbsent refusal <;> simp [Except.map, bind, Except.bind, hr] <;> rfl

theorem isQuiet_exists? : IsQuiet (exists? path : ExceptT DiskFault (StateM Volume) _) :=
  isQuiet_find?.bind fun _ => isQuiet_pure _

theorem answer_exists? :
    answer (exists? path) volume = (answer (find? path) volume).map Option.isSome := by
  rw [exists?, answer_bind]
  cases answer (find? path) volume <;> rfl

theorem isQuiet_ask_read : IsQuiet (ask path read : ExceptT DiskFault (StateM Volume) _) := by
  rw [ask]
  split
  · exact isQuiet_throw _
  · refine IsQuiet.bind (fun _ => rfl) fun found => ?_
    cases found with
    | ok bytes => exact isQuiet_pure _
    | error refusal => exact isQuiet_throw _

theorem answer_ask_read (h : path.isPassable = true) :
    answer (ask path read) volume = (volume.read path).mapError (.refused · path) := by
  have hread : answer (liftM (read path : StateM Volume _) : ExceptT DiskFault (StateM Volume) _)
      volume = .ok (volume.read path) := rfl
  rw [ask, Path.fault?_eq_none_iff.2 h]
  dsimp only
  rw [answer_bind, hread]
  cases volume.read path <;> rfl

theorem isQuiet_readText : IsQuiet (readText path : ExceptT DiskFault (StateM Volume) _) := by
  refine isQuiet_ask_read.bind fun bytes => ?_
  cases Text.Utf8.fileText bytes with
  | ok text => exact isQuiet_pure _
  | error fault => exact isQuiet_throw _

/-- **The text of a file** is what its bytes read as. -/
theorem answer_readText (h : path.isPassable = true) :
    answer (readText path) volume =
      (volume.read path).mapError (.refused · path) >>= fun bytes =>
        (Text.Utf8.fileText bytes).mapError .notText := by
  rw [readText, isQuiet_ask_read.answer_bind, answer_ask_read h]
  refine congrArg _ (funext fun bytes => ?_)
  cases Text.Utf8.fileText bytes <;> rfl

theorem isQuiet_locate : IsQuiet (locate path : ExceptT DiskFault (StateM Volume) _) := by
  rw [locate]
  split
  · exact isQuiet_throw _
  · exact IsQuiet.bind (fun _ => rfl) fun _ => isQuiet_pure _

/-- **Where a path leads** is told by the working directory alone. -/
theorem answer_locate (h : path.isPassable = true) :
    answer (locate path) volume = .ok (path.normalize volume.working) := by
  rw [locate, Path.firstFault?_eq_none_iff.2 h]
  rfl

theorem answer_locate_of_fault {fault : NameFault} (h : path.firstFault? = some fault) :
    answer (locate path) volume = .error (.name fault) := by
  rw [locate, h]
  rfl

end SchemaScribe.Disk

namespace SchemaScribe.Volume

variable {path : Path} {volume : Volume}

theorem find_eq_ok_iff {entry : Entry} :
    volume.find path = .ok entry ↔
      ∃ place, volume.placeOf path = .ok place ∧ volume.entryAt? place = some entry := by
  rw [find, bind_eq_ok_iff]
  refine exists_congr fun place => and_congr_right fun _ => ?_
  cases volume.entryAt? place with
  | none => exact iff_of_false (by intro h; cases h) (by simp)
  | some found => exact pure_eq_ok_iff.trans (by simp)

theorem read_of_file {bytes : ByteArray} (h : volume.find path = .ok (.file bytes)) :
    volume.read path = .ok bytes := by
  rw [read, h]
  rfl

theorem read_of_directory (h : volume.find path = .ok .directory) :
    volume.read path = .error .isDirectory := by
  rw [read, h]
  rfl

theorem read_of_error {refusal : Refusal} (h : volume.find path = .error refusal) :
    volume.read path = .error refusal := by
  rw [read, h]
  rfl

end SchemaScribe.Volume
