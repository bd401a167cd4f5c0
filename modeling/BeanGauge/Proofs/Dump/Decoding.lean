import BeanGauge.Proofs.Dump
/-!
# Decoding a dump

A JSON value is a dump exactly if it is an object of objects. Then each of its members is a bean,
and every attribute is the image of its value, item by item and member by member down to any depth.
Otherwise either the value itself is at fault, or of the beans that are no objects the least by
bytes.
-/

namespace BeanGauge

open Text (encode encode_lt_iff)

namespace Json

/-- Whether a value is an object. -/
def IsObject (j : Json) : Prop := ∃ members, j = .object members

theorem member?_object (members : List (String × Json)) (name : String) :
    (object members).member? name = (Dict.ofList members).get? name :=
  (Dict.get?_ofList_eq_find? members name).symm

theorem isObject_of_member? {j value : Json} {name : String} (h : j.member? name = some value) :
    j.IsObject := by
  cases j with
  | object members => exact ⟨members, rfl⟩
  | _ => cases h

end Json

/-! ## The image of a value -/

namespace Attribute

/-- Whether an attribute is the image of a JSON value. A number that fits 64 bits with a sign stays
an integer, and any other one is a double. An array keeps its items in order; an object keeps its
members, which come to stand in the order of their names. -/
inductive Image : Json → Attribute → Prop
  | null : Image .null .null
  | bool (b : Bool) : Image (.bool b) (.bool b)
  | integer (i : Int64) : Image (.int i.toInt) (.integer i.toInt)
  | large {n : Int} (big : ∀ i : Int64, i.toInt ≠ n) : Image (.int n) (.float (Number.ofInt n))
  | float (x : Float) : Image (.float x) (.float x)
  | string (s : String) : Image (.string s) (.string s)
  | array {items : List Json} {images : List Attribute} (length : images.length = items.length)
      (each : ∀ (i : Nat) j a, items[i]? = some j → images[i]? = some a → Image j a) :
      Image (.array items) (.array images)
  | object {members : List (String × Json)} {images : List (String × Attribute)}
      (sorted : Entries.Sorted images)
      (names : ∀ name, name ∈ images.map Prod.fst ↔ ((Json.object members).member? name).isSome)
      (each : ∀ name j a, (Json.object members).member? name = some j →
        (name, a) ∈ images → Image j a) :
      Image (.object members) (.object images)

/-- An integer fits if it is one of 64 bits with a sign. -/
theorem fits_iff {n : Int} : fits n ↔ ∃ i : Int64, i.toInt = n := by
  rw [fits, Bool.and_eq_true, decide_eq_true_iff, decide_eq_true_iff]
  constructor
  · rintro ⟨hlow, hhigh⟩
    exact ⟨.ofInt n, Int64.toInt_ofInt_of_le hlow hhigh⟩
  · rintro ⟨i, rfl⟩
    exact ⟨i.le_toInt, i.toInt_lt⟩

theorem ofItems_eq_map (js : List Json) : ofItems js = js.map ofJson := by
  induction js with
  | nil => rfl
  | cons j js ih => rw [ofItems, ih, List.map_cons]

/-- A member of an object is decoded under its name; of several members with one name the last
counts. -/
theorem get?_ofMembers (members : List (String × Json)) (name : String) :
    (Dict.ofList (ofMembers members)).get? name =
      ((Json.object members).member? name).map ofJson := by
  rw [Json.member?_object, ofMembers_eq_map]
  exact Dict.get?_ofList_map ofJson members name

theorem mem_keys_ofMembers_iff {members : List (String × Json)} {name : String} :
    name ∈ (Dict.ofList (ofMembers members)).keys ↔
      ((Json.object members).member? name).isSome := by
  rw [Dict.mem_keys_iff, get?_ofMembers, Option.isSome_map]

/-- An object whose members have images has the object of these as its image. -/
theorem image_object {members : List (String × Json)}
    (h : ∀ m ∈ members, Image m.2 (ofJson m.2)) :
    Image (.object members) (.object (Entries.ofList (ofMembers members))) := by
  refine .object (Entries.sorted_ofList _) (fun name => mem_keys_ofMembers_iff) ?_
  intro name j a hj ha
  rw [← Entries.get?_eq_some_iff (Entries.sorted_ofList _)] at ha
  have himage := (get?_ofMembers members name).symm.trans ha
  rw [hj] at himage
  cases himage
  rw [Json.member?_object, Dict.get?_eq_some_iff] at hj
  exact h (name, j) (Entries.mem_of_mem_ofList hj)

mutual

/-- What a value is decoded to is its image. -/
theorem image_ofJson : ∀ j, Image j (ofJson j)
  | .null => .null
  | .bool b => .bool b
  | .int n => by
    rw [ofJson]
    split
    · rename_i hfits
      obtain ⟨i, rfl⟩ := fits_iff.1 hfits
      exact .integer i
    · rename_i hfits
      exact .large fun i hi => hfits (fits_iff.2 ⟨i, hi⟩)
  | .float x => .float x
  | .string s => .string s
  | .array items => by
    rw [ofJson, ofItems_eq_map]
    refine .array (List.length_map _) fun i j a hj ha => ?_
    rw [List.getElem?_map, hj] at ha
    cases ha
    exact image_of_mem_items items j (List.mem_of_getElem? hj)
  | .object members => by
    rw [ofJson]
    exact image_object (image_of_mem_members members)

theorem image_of_mem_items : ∀ items : List Json, ∀ j ∈ items, Image j (ofJson j)
  | [] => List.forall_mem_nil _
  | j :: items => List.forall_mem_cons.2 ⟨image_ofJson j, image_of_mem_items items⟩

theorem image_of_mem_members : ∀ members : List (String × Json), ∀ m ∈ members,
    Image m.2 (ofJson m.2)
  | [] => List.forall_mem_nil _
  | (_, j) :: members => List.forall_mem_cons.2 ⟨image_ofJson j, image_of_mem_members members⟩

end

/-- Nothing but the image of a value is related to it. -/
theorem Image.eq_ofJson {j : Json} {a : Attribute} (h : Image j a) : a = ofJson j := by
  induction h with
  | null | bool | float | string => rfl
  | integer i => rw [ofJson, if_pos (fits_iff.2 ⟨i, rfl⟩)]
  | large big =>
    rw [ofJson, if_neg]
    intro hfits
    obtain ⟨i, hi⟩ := fits_iff.1 hfits
    exact big i hi
  | @array items images length _ ih =>
    rw [ofJson, ofItems_eq_map]
    congr 1
    apply List.ext_getElem
    · rw [length, List.length_map]
    · intro i himage hitem
      rw [List.length_map] at hitem
      rw [List.getElem_map]
      exact ih i _ _ (List.getElem?_eq_getElem hitem) (List.getElem?_eq_getElem himage)
  | @object members images sorted names _ ih =>
    have hdict : (⟨images, sorted⟩ : Dict String Attribute) = Dict.ofList (ofMembers members) := by
      refine Dict.ext_keys (fun name => ?_) (fun name a a' ha ha' => ?_)
      · exact (names name).trans mem_keys_ofMembers_iff.symm
      · rw [get?_ofMembers, Option.map_eq_some_iff] at ha'
        obtain ⟨j, hj, rfl⟩ := ha'
        exact ih name j a hj (Dict.get?_eq_some_iff.1 ha)
    rw [ofJson]
    exact congrArg (fun d => Attribute.object d.entries) hdict

end Attribute

/-! ## The beans of a value -/

namespace Dump

/-- Whether a dump is what a JSON value says: its beans are the members of the value, and the
attributes of a bean are the image of the member. -/
structure Decodes (j : Json) (d : Dump) : Prop where
  object : j.IsObject
  beans : ∀ bean, bean ∈ d.beans.keys ↔ (j.member? bean).isSome
  attributes : ∀ bean value attributes, j.member? bean = some value →
    d.beans.get? bean = some attributes → Attribute.Image value (.object attributes.entries)

/-- Whether an error is what makes a JSON value no dump: the value is no object, or the bean is the
least by bytes that is none. -/
inductive Fault (j : Json) : Error → Prop
  | payload (noObject : ¬ j.IsObject) : Fault j (.notObject j.kind)
  | bean {bean : String} {value : Json} (member : j.member? bean = some value)
      (noObject : ¬ value.IsObject)
      (least : ∀ other value', j.member? other = some value' → ¬ value'.IsObject →
        encode bean ≤ encode other) :
      Fault j (.beanNotObject bean value.kind)

variable {j : Json} {d : Dump} {e : Error}

/-- A value says what one dump is. -/
theorem Decodes.unique {d' : Dump} (h : Decodes j d) (h' : Decodes j d') : d = d' := by
  suffices hbeans : d.beans = d'.beans by
    cases d
    cases d'
    exact congrArg Dump.mk hbeans
  refine Dict.ext_keys (fun bean => ?_) (fun bean a a' ha ha' => ?_)
  · rw [h.beans, h'.beans]
  · have hmember : (j.member? bean).isSome := by
      rw [← h.beans, Dict.mem_keys_iff, ha]
      rfl
    obtain ⟨value, hvalue⟩ := Option.isSome_iff_exists.1 hmember
    have himage := (h.attributes bean value a hvalue ha).eq_ofJson
    have himage' := (h'.attributes bean value a' hvalue ha').eq_ofJson
    have hentries : a.entries = a'.entries := Attribute.object.inj (himage.trans himage'.symm)
    cases a
    cases a'
    cases hentries
    rfl

/-- At most one thing is at fault. -/
theorem Fault.unique {e' : Error} (h : Fault j e) (h' : Fault j e') : e = e' := by
  cases h with
  | payload hno =>
    cases h' with
    | payload => rfl
    | bean hmember => exact absurd (Json.isObject_of_member? hmember) hno
  | @bean bean value hmember hno hleast =>
    cases h' with
    | payload hno' => exact absurd (Json.isObject_of_member? hmember) hno'
    | @bean bean' value' hmember' hno' hleast' =>
      have hbean : bean = bean' := by
        refine KeyOrder.connected (fun hlt => ?_) (fun hlt => ?_)
        · exact hleast' bean value hmember hno (encode_lt_iff.2 hlt)
        · exact hleast bean' value' hmember' hno' (encode_lt_iff.2 hlt)
      subst hbean
      cases hmember.symm.trans hmember'
      rfl

example : ofJson (.object [("b:k=1", .int 3), ("a:k=2", .null), ("a:k=1", .object []),
    ("c:k=1", .array [])]) = .error (.beanNotObject "a:k=2" "null") := rfl

end Dump

end BeanGauge
