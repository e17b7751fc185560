import ScreenFlow.Proofs.Codec.Record
import ScreenFlow.Reader.Union

/-!
# Tagged unions that are read back

A tagged value is written as its tag and then the members of its body. The tag is found among all
members and stands for that body again (`Union.meaning?`), and what is left without it are the
members of the body. A tag that no variant has stands for the fallback.
-/

namespace ScreenFlow

/-- The members written for a value by a body, none of them the tag. -/
inductive Body.Wrote {α : Type} (tag : String) : Body α → α → List (String × Json) → Prop
  | unit (value : α) : Wrote tag (.unit value) value []
  | record {expected : String} {fields : Fields α} {value : α} {members : List (String × Json)}
      (distinct : (tag :: fields.names).Nodup) (wrote : fields.Wrote value members) :
      Wrote tag (.record expected fields) value members

theorem Body.Wrote.nodup {α : Type} {tag : String} {body : Body α} {value : α}
    {members : List (String × Json)} (h : body.Wrote tag value members) :
    (tag :: members.map Prod.fst).Nodup := by
  cases h with
  | unit => exact List.nodup_singleton tag
  | record distinct wrote =>
    obtain ⟨hfresh, hnames⟩ := List.nodup_cons.1 distinct
    exact List.nodup_cons.2 ⟨wrote.notMem_keys hfresh, wrote.nodup hnames⟩

namespace Union

variable {α : Type} {union : Union α}

/-- The body that a tag stands for. -/
def meaning? (union : Union α) (name : String) : Option (Body α) :=
  union.variants.lookup name <|> union.fallback.map .unit

/-- The body of a name is that of the first variant of the name. -/
theorem lookup_variants (variants : List (String × Body α)) (name : String) :
    variants.lookup name =
      (variants.findIdx? (·.1 = name)).bind fun place => variants[place]?.map Prod.snd := by
  induction variants with
  | nil => rfl
  | cons variant variants ih =>
    obtain ⟨other, body⟩ := variant
    rw [List.findIdx?_cons]
    by_cases h : other = name
    · subst h
      rw [List.lookup_cons_self, if_pos (decide_eq_true rfl)]
      rfl
    · have hother : (name == other) = false := beq_false_of_ne (Ne.symm h)
      rw [List.lookup_cons, hother, if_neg (by simpa using h), ih, Option.bind_map]
      rfl

/-- A tag is read as a choice of the body that it stands for. -/
theorem choose_of_meaning? {name : String} {body : Body α} (h : union.meaning? name = some body) :
    ∃ choice, (∀ origin, union.choose origin (.str name) = .ok choice) ∧
      union.body choice = some body := by
  unfold meaning? at h
  rw [lookup_variants] at h
  cases hfind : union.variants.findIdx? (·.1 = name) with
  | none =>
    rw [hfind] at h
    obtain ⟨value, hfallback, _⟩ := Option.map_eq_some_iff.1 h
    refine ⟨none, fun origin => ?_, h⟩
    rw [choose, hfind]
    simp only [hfallback, Option.isSome_some, if_true]
  | some place =>
    obtain ⟨hplace, _⟩ := List.findIdx?_eq_some_iff_getElem.1 hfind
    rw [hfind, Option.bind_some, List.getElem?_eq_getElem hplace] at h
    refine ⟨some place, fun origin => ?_, ?_⟩
    · rw [choose, hfind]
    · unfold Union.body
      rw [Option.bind_some, List.getElem?_eq_getElem hplace]
      exact h

/-- The members of a tagged value are read as the value. -/
theorem read_of_lays {form : Form} {name : String} {body : Body α} {value : α}
    {members : List (String × Json)} {drafts : List (String × Draft)} (origin : Origin)
    (hlays : form.Lays ((union.tag, .str name) :: members) drafts)
    (hmeaning : union.meaning? name = some body) (h : body.Wrote union.tag value members) :
    union.reader origin (.obj drafts .closed) = .ok value := by
  obtain ⟨choice, hchoose, hbody⟩ := choose_of_meaning? hmeaning
  obtain ⟨hfresh, _⟩ := List.nodup_cons.1 h.nodup
  have htag : union.tagField.readMembers Draft.keepFault origin drafts .closed = .ok choice := by
    refine Fields.readMembers_single origin hlays List.lookup_cons_self fun form origin => ?_
    rw [Form.draft_str, hchoose]
  show union.tagField.readMembers _ _ _ _ >>= _ = _
  rw [htag]
  show union.ofMembers choice (drafts.filter (·.1 ≠ union.tag)) = _
  rw [ofMembers, hbody]
  cases h with
  | unit => rfl
  | record distinct wrote =>
    exact Fields.readMembers_of_wrote .buffer (hlays.without hfresh) wrote
      (List.nodup_cons.1 distinct).2

/-- A tagged value is recovered from its tag and the members of its body. -/
theorem recovers {name : String} {body : Body α} {value : α} {members : List (String × Json)}
    (hmeaning : union.meaning? name = some body) (h : body.Wrote union.tag value members) :
    Recovers union.reader (.obj (Json.always union.tag (.str name) ++ members)) value := by
  intro form origin
  obtain ⟨drafts, hdraft, hlays⟩ :=
    @Form.exists_lays form ((union.tag, .str name) :: members) h.nodup
  rw [Json.always, List.singleton_append, hdraft]
  exact read_of_lays origin hlays hmeaning h

end Union

end ScreenFlow
