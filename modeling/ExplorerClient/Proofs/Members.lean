import ExplorerClient.Proofs.Steady
import Mathlib.Tactic.Choose

/-!
# Records read from the members of an object

An object gives a record the values of the members that stand under the names of its fields. Their
order does not matter, nor do blanks; a member under another name is passed over, whatever its value
is, and a field without a member keeps its blank value. Two members under the name of one field are
too many.

Results:
* `ObjectText.said`: what the text of an object says.
* `exists_readFields`: members that fit are read, and fill the record.
* `once_of_readFields`: where members are read, no field has two.
* `records_told`: all this for every type of records.
-/

namespace ExplorerClient.Json

/-! ## Texts of objects -/

/-- The tree of the value of a member. -/
def Member.tree (m : Member) : Tree := (read m.value).1

theorem Member.tree_eq {m : Member} {t : Tree} (said : Said m.value t) : m.tree = t := by
  rw [Member.tree, said.read]

/-- The text is that of an object with these members, each of which stands under its name, which is
a string and may be written with escapes. Blanks may stand everywhere between the parts. -/
structure ObjectText (ms : List (String × Member)) (s : List UInt8) : Prop where
  named : ∀ m ∈ ms, m.2.Named (.ok m.1)
  parts : ∃ w, Separated (ms.map fun m => m.2.text) w ∧ Padded (0x7b :: (w ++ [0x7d])) s

/-- Blanks around a value belong to the member as well. -/
theorem Member.exists_core (m : Member) : ∃ k : Member, WellFormed m.value →
    Padded k.text m.text ∧ (∀ name, m.Named name → k.Named name) ∧ Says k.value m.tree := by
  by_cases formed : WellFormed m.value
  · obtain ⟨t, said⟩ := formed
    rw [Member.tree_eq said]
    obtain ⟨core, ⟨before, after, hb, ha, split⟩, tells⟩ := said
    refine ⟨⟨m.name, m.before, m.after ++ before, core⟩, fun _ => ⟨⟨[], after, blanks_nil, ha, ?_⟩,
      fun name named => ⟨named.completed, named.before, named.after.append hb⟩, tells⟩⟩
    simp [Member.text, split]
  · exact ⟨m, fun formed' => absurd formed' formed⟩

/-- The text of an object says the trees of its members under their names. -/
theorem ObjectText.said {ms : List (String × Member)} {s : List UInt8} (text : ObjectText ms s)
    (formed : ∀ m ∈ ms, WellFormed m.2.value) :
    Said s (.object (ms.map fun m => (.ok m.1, m.2.tree)) none) := by
  choose core trimmed using Member.exists_core
  obtain ⟨named, w, parts, padded⟩ := text
  have parts' : Separated (ms.map fun m => (core m.2).text) w :=
    Separated.trim (fun m there => (trimmed m.2 (formed m there)).1) parts
  let members := ms.map fun m => (core m.2, (.ok m.1 : Except Fault String), m.2.tree)
  have tells : Says (0x7b :: (w ++ [0x7d])) (.object (members.map Prod.snd) none) := by
    refine .object (by simpa [members, Function.comp_def] using parts') ?_ ?_
    · intro k there
      obtain ⟨m, among, rfl⟩ := List.mem_map.mp there
      exact (trimmed m.2 (formed m among)).2.1 _ (named m among)
    · intro k there
      obtain ⟨m, among, rfl⟩ := List.mem_map.mp there
      exact (trimmed m.2 (formed m among)).2.2
  exact ⟨_, padded, by simpa [members, Function.comp_def] using tells⟩

theorem ObjectText.ne_nil {ms : List (String × Member)} {s : List UInt8} (text : ObjectText ms s) :
    s ≠ [] := by
  obtain ⟨-, w, -, before, after, -, -, rfl⟩ := text
  simp

namespace Record

variable {σ : Type}

/-! ## Reading members -/

section

variable {fs : List (Field σ)} {n : Nat} {seen : List String} {name : String} {t : Tree}
  {rest : List (Except Fault String × Tree)}

/-- A member that is no field's is passed over. -/
theorem readFields_unknown (other : ∀ f ∈ fs, f.name ≠ name) (passes : t.passFault? = none) (r : σ) :
    readFields fs n seen ((.ok name, t) :: rest) r = readFields fs n seen rest r := by
  have missing : fs.find? (·.name == name) = none :=
    List.find?_eq_none.mpr fun f hf => by simpa using other f hf
  rw [readFields]
  simp only [bind, Except.bind, missing, passes]

/-- The member of a field that has not been read yet gives the field its value. -/
theorem readFields_known (distinct : (fs.map (·.name)).Nodup) {f : Field σ} (hf : f ∈ fs)
    (new : f.name ∉ seen) {a : f.α} (taken : f.codec.read n t = .ok a) (r : σ) :
    readFields fs n seen ((.ok f.name, t) :: rest) r =
      readFields fs n (f.name :: seen) rest (f.set a r) := by
  rw [readFields]
  simp only [bind, Except.bind, find_name distinct hf, if_neg new, readField, taken]
  rfl

/-- Where members have been read, there is no field that two of them name, and none that has been
read before is named. -/
theorem once_of_readFields {ms : List (String × Member)} {r r' : σ}
    (found : readFields fs n seen (ms.map fun m => (.ok m.1, m.2.tree)) r = .ok r') :
    ∀ f ∈ fs, (ms.map Prod.fst).count f.name ≤ 1 ∧
      (f.name ∈ seen → f.name ∉ ms.map Prod.fst) := by
  induction ms generalizing seen r with
  | nil => exact fun f _ => ⟨Nat.zero_le 1, fun _ => List.not_mem_nil⟩
  | cons m ms ih =>
    obtain ⟨name, m⟩ := m
    intro f hf
    rw [List.map_cons, readFields] at found
    simp only [bind, Except.bind] at found
    split at found
    case h_1 none_found =>
      have other : f.name ≠ name := by simpa using List.find?_eq_none.mp none_found f hf
      split at found
      case h_1 => cases found
      case h_2 =>
        obtain ⟨most, unseen⟩ := ih found f hf
        rw [List.map_cons, List.count_cons_of_ne other.symm, List.mem_cons, not_or]
        exact ⟨most, fun old => ⟨other, unseen old⟩⟩
    case h_2 g isField =>
      obtain rfl : g.name = name := by simpa using List.find?_some isField
      split at found
      case isTrue => cases found
      case isFalse new =>
        split at found
        case h_1 => cases found
        case h_2 =>
          obtain ⟨most, unseen⟩ := ih found f hf
          rw [List.map_cons]
          by_cases same : f.name = g.name
          · rw [same] at unseen ⊢
            have gone := List.count_eq_zero.mpr (unseen List.mem_cons_self)
            rw [List.count_cons_self, gone]
            exact ⟨Nat.le_refl 1, fun old => absurd old new⟩
          · rw [List.count_cons_of_ne (Ne.symm same), List.mem_cons, not_or]
            exact ⟨most, fun old => ⟨same, unseen (List.mem_cons_of_mem _ old)⟩⟩

end

section

variable [Record σ] {ms : List (String × Member)} {m : Member} {n : Nat} {seen : List String}
  {name : String} {r r' : σ} {f : Field σ}

variable (σ) in
/-- The members can be read where these fields have been read already. -/
structure Readable (n : Nat) (seen : List String) (ms : List (String × Member)) : Prop where
  once : ∀ f ∈ (fields : List (Field σ)), (ms.map Prod.fst).count f.name ≤ 1
  unseen : ∀ f ∈ (fields : List (Field σ)), f.name ∈ seen → f.name ∉ ms.map Prod.fst
  known : ∀ f ∈ (fields : List (Field σ)), ∀ m ∈ ms, m.1 = f.name →
    ∃ a, f.codec.read n m.2.tree = .ok a
  unknown : ∀ m ∈ ms, (∀ f ∈ (fields : List (Field σ)), f.name ≠ m.1) →
    m.2.tree.passFault? = none

theorem Readable.tail (h : Readable σ n seen ((name, m) :: ms)) : Readable σ n seen ms where
  once f hf := Nat.le_trans List.count_le_count_cons (h.once f hf)
  unseen f hf old among := h.unseen f hf old (List.mem_cons_of_mem _ among)
  known f hf k hk := h.known f hf k (List.mem_cons_of_mem _ hk)
  unknown k hk := h.unknown k (List.mem_cons_of_mem _ hk)

/-- The name of a field does not come again. -/
theorem Readable.alone (h : Readable σ n seen ((f.name, m) :: ms))
    (hf : f ∈ (fields : List (Field σ))) : f.name ∉ ms.map Prod.fst := by
  have most := h.once f hf
  rw [List.map_cons, List.count_cons_self] at most
  exact List.count_eq_zero.mp (by omega)

theorem Readable.tail_seen (h : Readable σ n seen ((f.name, m) :: ms))
    (hf : f ∈ (fields : List (Field σ))) : Readable σ n (f.name :: seen) ms where
  once := h.tail.once
  unseen g hg old among := by
    rcases List.mem_cons.mp old with same | old
    · exact h.alone hf (same ▸ among)
    · exact h.tail.unseen g hg old among
  known := h.tail.known
  unknown := h.tail.unknown

/-- What reading the members makes of a record: those of the fields go into their places, and the
places of the other fields are left as they are. -/
structure Poured (n : Nat) (ms : List (String × Member)) (r r' : σ) : Prop where
  named : ∀ f ∈ (fields : List (Field σ)), ∀ m ∈ ms, m.1 = f.name →
    f.codec.read n m.2.tree = .ok (f.get r')
  absent : ∀ f ∈ (fields : List (Field σ)), f.name ∉ ms.map Prod.fst → f.get r' = f.get r

theorem Poured.unknown (h : Poured n ms r r')
    (other : ∀ f ∈ (fields : List (Field σ)), f.name ≠ name) :
    Poured n ((name, m) :: ms) r r' where
  named f hf k hk same := by
    rcases List.mem_cons.mp hk with rfl | later
    · exact absurd same.symm (other f hf)
    · exact h.named f hf k later same
  absent f hf missing := h.absent f hf fun among => missing (List.mem_cons_of_mem _ among)

theorem eq_of_name {depth : Nat} (places : Places σ depth) {g : Field σ}
    (hf : f ∈ (fields : List (Field σ))) (hg : g ∈ (fields : List (Field σ)))
    (same : f.name = g.name) : f = g := by
  have found := find_name places.distinct hf
  rw [same, find_name places.distinct hg] at found
  exact (Option.some.inj found).symm

theorem Poured.known {depth : Nat} (places : Places σ depth) (hf : f ∈ (fields : List (Field σ)))
    {a : f.α} (taken : f.codec.read n m.tree = .ok a) (alone : f.name ∉ ms.map Prod.fst)
    (h : Poured n ms (f.set a r) r') : Poured n ((f.name, m) :: ms) r r' where
  named g hg k hk same := by
    rcases List.mem_cons.mp hk with rfl | later
    · obtain rfl := eq_of_name places hf hg same
      rw [h.absent f hf alone, places.own f hf]
      exact taken
    · exact h.named g hg k later same
  absent g hg missing := by
    have other : f.name ≠ g.name := fun same => missing (same ▸ List.mem_cons_self)
    rw [h.absent g hg fun among => missing (List.mem_cons_of_mem _ among)]
    exact (places.apart f hf g hg).resolve_left other a r

/-- Members that can be read are read into the record. -/
theorem exists_readFields {depth : Nat} (places : Places σ depth) (h : Readable σ n seen ms)
    (r : σ) : ∃ r', readFields fields n seen (ms.map fun m => (.ok m.1, m.2.tree)) r = .ok r' ∧
      Poured n ms r r' := by
  -- each member of a field changes both the record and the names that must not come again
  induction ms generalizing seen r with
  | nil =>
    exact ⟨r, rfl, fun _ _ _ there => absurd there List.not_mem_nil, fun _ _ _ => rfl⟩
  | cons m ms ih =>
    obtain ⟨name, m⟩ := m
    by_cases field : ∃ f ∈ (fields : List (Field σ)), f.name = name
    · obtain ⟨f, hf, rfl⟩ := field
      have new : f.name ∉ seen := fun old => h.unseen f hf old List.mem_cons_self
      obtain ⟨a, taken⟩ := h.known f hf _ List.mem_cons_self rfl
      obtain ⟨r', read, poured⟩ := ih (h.tail_seen hf) (f.set a r)
      rw [List.map_cons, readFields_known places.distinct hf new taken]
      exact ⟨r', read, poured.known places hf taken (h.alone hf)⟩
    · have other : ∀ f ∈ (fields : List (Field σ)), f.name ≠ name :=
        fun f hf same => field ⟨f, hf, same⟩
      obtain ⟨r', read, poured⟩ := ih h.tail r
      rw [List.map_cons, readFields_unknown other (h.unknown _ List.mem_cons_self other)]
      exact ⟨r', read, poured.unknown other⟩

end

/-! ## What an object says of a record -/

variable (σ) [Record σ]

/-- No field has two members, the values of the members of fields can be used, and those of all
others are JSON at least. -/
structure Fits (ms : List (String × Member)) : Prop where
  once : ∀ f ∈ (fields : List (Field σ)), (ms.map Prod.fst).count f.name ≤ 1
  known : ∀ f ∈ (fields : List (Field σ)), ∀ m ∈ ms, m.1 = f.name →
    ∃ a, decode f.codec m.2.value = .ok a
  unknown : ∀ m ∈ ms, (∀ f ∈ (fields : List (Field σ)), f.name ≠ m.1) → WellFormed m.2.value

/-- The members of two objects tell the same of every field. -/
def Agree (ms ms' : List (String × Member)) : Prop :=
  ∀ f ∈ (fields : List (Field σ)), ∀ a,
    (∃ m ∈ ms, m.1 = f.name ∧ decode f.codec m.2.value = .ok a) ↔
      ∃ m ∈ ms', m.1 = f.name ∧ decode f.codec m.2.value = .ok a

variable {σ}

/-- The blank record, with the value of its member in each field that is named. -/
structure Filled (ms : List (String × Member)) (r : σ) : Prop where
  named : ∀ f ∈ (fields : List (Field σ)), ∀ m ∈ ms, m.1 = f.name →
    decode f.codec m.2.value = .ok (f.get r)
  absent : ∀ f ∈ (fields : List (Field σ)), f.name ∉ ms.map Prod.fst → f.get r = f.get blank

theorem Places.ext {depth : Nat} (places : Places σ depth) {r r' : σ}
    (same : ∀ f ∈ (fields : List (Field σ)), f.get r = f.get r') : r = r' := by
  rw [← places.whole r, ← places.whole r']
  exact List.foldl_ext _ _ _ fun done f there => by rw [same f there]

/-- Members that agree and fit name the same fields. -/
theorem Agree.mem_names {ms ms' : List (String × Member)} (agree : Agree σ ms ms')
    (fits : Fits σ ms) (fits' : Fits σ ms') {f : Field σ} (hf : f ∈ (fields : List (Field σ))) :
    f.name ∈ ms.map Prod.fst ↔ f.name ∈ ms'.map Prod.fst := by
  simp only [List.mem_map]
  constructor
  · rintro ⟨m, among, same⟩
    obtain ⟨a, taken⟩ := fits.known f hf m among same
    obtain ⟨m', among', same', -⟩ := (agree f hf a).mp ⟨m, among, same, taken⟩
    exact ⟨m', among', same'⟩
  · rintro ⟨m', among', same'⟩
    obtain ⟨a, taken⟩ := fits'.known f hf m' among' same'
    obtain ⟨m, among, same, -⟩ := (agree f hf a).mpr ⟨m', among', same', taken⟩
    exact ⟨m, among, same⟩

/-- The record is determined by what the members tell of the fields. -/
theorem Filled.unique {depth : Nat} (places : Places σ depth) {ms ms' : List (String × Member)}
    {r r' : σ} (filled : Filled ms r) (filled' : Filled ms' r') (agree : Agree σ ms ms')
    (names : ∀ f ∈ (fields : List (Field σ)),
      (f.name ∈ ms.map Prod.fst ↔ f.name ∈ ms'.map Prod.fst)) : r = r' := by
  refine places.ext fun f hf => ?_
  by_cases there : f.name ∈ ms.map Prod.fst
  · obtain ⟨m, among, same⟩ := List.mem_map.mp there
    have told := filled.named f hf m among same
    obtain ⟨m', among', same', taken⟩ := (agree f hf _).mp ⟨m, among, same, told⟩
    exact Except.ok.inj (taken.symm.trans (filled'.named f hf m' among' same'))
  · rw [filled.absent f hf there, filled'.absent f hf fun named => there ((names f hf).mpr named)]

/-- What decodes is JSON. -/
theorem wellFormed_of_decode {α : Type} {c : Codec α} (careful : c.Careful) {s : List UInt8} {a : α}
    (decoded : decode c s = .ok a) : WellFormed s := by
  obtain ⟨t, said, -⟩ := (decode_eq_ok_iff careful).mp decoded
  exact ⟨t, said⟩

theorem Fits.wellFormed {depth : Nat} (places : Places σ depth) {ms : List (String × Member)}
    (fits : Fits σ ms) : ∀ m ∈ ms, WellFormed m.2.value := by
  intro m there
  by_cases field : ∀ f ∈ (fields : List (Field σ)), f.name ≠ m.1
  · exact fits.unknown m there field
  · simp only [not_forall, not_not] at field
    obtain ⟨f, hf, same⟩ := field
    obtain ⟨a, decoded⟩ := fits.known f hf m there same.symm
    exact wellFormed_of_decode (places.steady f hf).careful decoded

/-- Values are taken out of members as they are out of texts of their own. -/
theorem Places.read_member {depth n : Nat} (places : Places σ depth) (enough : depth ≤ n)
    (small : depth ≤ Codec.maxDepth) {f : Field σ} (hf : f ∈ (fields : List (Field σ))) {m : Member}
    (formed : WellFormed m.value) : f.codec.read n m.tree = decode f.codec m.value := by
  obtain ⟨t, said⟩ := formed
  rw [decode_of_said f.codec said, Member.tree_eq said]
  exact (places.steady f hf).read_eq enough small t

theorem read_object (n : Nat) (members : List (Except Fault String × Tree)) :
    (codec σ).read (n + 1) (.object members none) =
      readFields (fields : List (Field σ)) n [] members blank := by
  simp only [codec]
  cases readFields (fields : List (Field σ)) n [] members blank <;> rfl

/-- The text of an object is read into the blank record. -/
theorem decode_members {ms : List (String × Member)} {s : List UInt8}
    (text : ObjectText ms s) (formed : ∀ m ∈ ms, WellFormed m.2.value) :
    decode (codec σ) s = readFields (fields : List (Field σ)) (Codec.maxDepth - 1) []
      (ms.map fun m => (.ok m.1, m.2.tree)) blank := by
  rw [decode_of_said _ (text.said formed)]
  exact read_object (Codec.maxDepth - 1) _

/-- An endpoint reads the text of an object as the record itself. -/
theorem decodeObject_members {ms : List (String × Member)} {bytes : ByteArray}
    (text : ObjectText ms bytes.data.toList) (formed : ∀ m ∈ ms, WellFormed m.2.value) :
    decodeObject (codec σ) blank bytes = decode (codec σ) bytes.data.toList := by
  have said := text.said formed
  rw [decodeObject, decode_of_said _ said, decode_of_said _ said]
  exact Codec.read_orNull _ _ _ (by simp)

/-- How the records of a type are read from objects. -/
structure Told (σ : Type) [Record σ] : Prop where
  /-- An object whose members fit decodes to the record that they fill, alone or as the answer of
  an endpoint. -/
  decoded : ∀ ms bytes, ObjectText ms bytes.data.toList → Fits σ ms → ∃ r : σ, Filled ms r ∧
    decode (codec σ) bytes.data.toList = .ok r ∧ decodeObject (codec σ) blank bytes = .ok r
  /-- The members determine the record that they fill. -/
  determined : ∀ ms (r r' : σ), Filled ms r → Filled ms r' → r = r'
  /-- Objects that agree on the fields decode to the same record, whatever the order of their
  members, their blanks and their other members. -/
  same : ∀ ms ms' bytes bytes', ObjectText ms bytes.data.toList →
    ObjectText ms' bytes'.data.toList → Fits σ ms → Fits σ ms' → Agree σ ms ms' →
      decodeObject (codec σ) (blank : σ) bytes = decodeObject (codec σ) blank bytes'
  /-- An object with two members for one field is not decoded. -/
  twice : ∀ ms bytes, ObjectText ms bytes.data.toList → (∀ m ∈ ms, WellFormed m.2.value) →
    (∃ f ∈ (fields : List (Field σ)), 2 ≤ (ms.map Prod.fst).count f.name) →
      ∃ fault, decode (codec σ) bytes.data.toList = .error fault ∧
        decodeObject (codec σ) blank bytes = .error fault ∧ ∀ resource,
          (Reply.resource resource (decodeObject (codec σ) (blank : σ))).interpret (.ok bytes) =
            .error (.decode fault)

theorem Places.decoded {depth : Nat} (places : Places σ depth) (small : depth + 1 ≤ Codec.maxDepth)
    {ms : List (String × Member)} {bytes : ByteArray} (text : ObjectText ms bytes.data.toList)
    (fits : Fits σ ms) : ∃ r : σ, Filled ms r ∧ decode (codec σ) bytes.data.toList = .ok r ∧
      decodeObject (codec σ) blank bytes = .ok r := by
  have formed := fits.wellFormed places
  have enough : depth ≤ Codec.maxDepth - 1 := by omega
  have member {f : Field σ} (hf : f ∈ (fields : List (Field σ))) {m} (there : m ∈ ms) :=
    places.read_member enough (by omega) hf (formed m there)
  have readable : Readable σ (Codec.maxDepth - 1) [] ms := {
    once := fits.once
    unseen := fun _ _ old => absurd old List.not_mem_nil
    known := fun f hf m there same => by
      rw [member hf there]
      exact fits.known f hf m there same
    unknown := fun m there _ => by
      obtain ⟨t, said⟩ := formed m there
      rw [Member.tree_eq said]
      exact said.passes }
  obtain ⟨r, read, poured⟩ := exists_readFields places readable blank
  have filled : Filled ms r := by
    refine ⟨fun f hf m there same => ?_, poured.absent⟩
    rw [← member hf there]
    exact poured.named f hf m there same
  have found := (decode_members text formed).trans read
  exact ⟨r, filled, found, (decodeObject_members text formed).trans found⟩

theorem exists_fault_of_twice {ms : List (String × Member)} {bytes : ByteArray}
    (text : ObjectText ms bytes.data.toList) (formed : ∀ m ∈ ms, WellFormed m.2.value)
    {f : Field σ} (hf : f ∈ (fields : List (Field σ))) (two : 2 ≤ (ms.map Prod.fst).count f.name) :
    ∃ fault, decode (codec σ) bytes.data.toList = .error fault := by
  rw [decode_members text formed]
  cases outcome : readFields (fields : List (Field σ)) (Codec.maxDepth - 1) []
      (ms.map fun m => (.ok m.1, m.2.tree)) blank with
  | error fault => exact ⟨fault, rfl⟩
  | ok r =>
    have most := (once_of_readFields outcome f hf).1
    omega

/-- A fault in the text of an object is what the endpoint that got it complains of. -/
theorem interpret_error {ms : List (String × Member)} {bytes : ByteArray}
    (text : ObjectText ms bytes.data.toList) {fault : Fault}
    (refused : decodeObject (codec σ) (blank : σ) bytes = .error fault) (resource : Resource) :
    (Reply.resource resource (decodeObject (codec σ) (blank : σ))).interpret (.ok bytes) =
      .error (.decode fault) := by
  have there : bytes.isEmpty = false := by
    rw [Bool.eq_false_iff]
    intro empty
    have none : bytes.data.size = 0 := of_decide_eq_true empty
    exact text.ne_nil (by rw [Array.eq_empty_of_size_eq_zero none])
  simp [Reply.interpret, Reply.present, there, refused, bind, Except.bind, Except.mapError]

theorem Places.told {depth : Nat} (places : Places σ depth)
    (small : depth + 1 ≤ Codec.maxDepth := by decide) : Told σ where
  decoded _ _ text fits := places.decoded small text fits
  determined _ _ _ filled filled' :=
    filled.unique places filled' (fun _ _ _ => Iff.rfl) fun _ _ => Iff.rfl
  same ms ms' bytes bytes' text text' fits fits' agree := by
    obtain ⟨r, filled, -, found⟩ := places.decoded small text fits
    obtain ⟨r', filled', -, found'⟩ := places.decoded small text' fits'
    rw [found, found', filled.unique places filled' agree fun f hf => agree.mem_names fits fits' hf]
  twice ms bytes text formed two := by
    obtain ⟨f, hf, two⟩ := two
    obtain ⟨fault, refused⟩ := exists_fault_of_twice text formed hf two
    have refused' := (decodeObject_members text formed).trans refused
    exact ⟨fault, refused, refused', interpret_error text refused'⟩

end Record

end ExplorerClient.Json

namespace ExplorerClient

open Json
open Json.Record (Told)

/-- The records of every type are read from objects by the names of their fields, whatever the order
of the members, the blanks and the other members are. -/
theorem records_told :
    (Told AddressInfo ∧ Told Balance ∧ Told AddressBalance) ∧
    (Told HistoryEntry ∧ Told HistoryPage) ∧
    (Told UnspentOutput ∧ Told UnspentPage) ∧
    (Told ScriptSig ∧ Told TxInput ∧ Told ScriptPubKey ∧ Told TxOutput ∧ Told TxInfo) ∧
    (Told TxStatus ∧ Told Outpoint ∧ Told SpentIn ∧ Told SpentOutput ∧ Told BroadcastFeedback) ∧
    (Told BlockPages ∧ Told BlockInfo ∧ Told BlockHeader) ∧
    (Told ChainInfo ∧ Told ChainTip ∧ Told PeerInfo ∧ Told MempoolInfo ∧ Told ExchangeRate) :=
  ⟨⟨AddressInfo.places.told, Balance.places.told, AddressBalance.places.told⟩,
    ⟨HistoryEntry.places.told, HistoryPage.places.told⟩,
    ⟨UnspentOutput.places.told, UnspentPage.places.told⟩,
    ⟨ScriptSig.places.told, TxInput.places.told, ScriptPubKey.places.told, TxOutput.places.told,
      TxInfo.places.told⟩,
    ⟨TxStatus.places.told, Outpoint.places.told, SpentIn.places.told, SpentOutput.places.told,
      BroadcastFeedback.places.told⟩,
    ⟨BlockPages.places.told, BlockInfo.places.told, BlockHeader.places.told⟩,
    ⟨ChainInfo.places.told, ChainTip.places.told, PeerInfo.places.told, MempoolInfo.places.told,
      ExchangeRate.places.told⟩⟩

example : decodeObject (Record.codec Outpoint) {}
    " \x7b\x22vout\x22: 7, \x22x\x22: [1e999],\x22t\\u0078id\x22 :\x22a\x22\x7d".toUTF8 =
      .ok { txid := "a", vout := 7 } := by
  rfl

end ExplorerClient
