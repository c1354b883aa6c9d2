import ProtoClass.Class.Oneof
import ProtoClass.Proofs.Resolution.Message

/-!
# Oneofs recovered from their members

A resolved oneof lists its members by number.  As long as no field after a member has the member's number, the numbers
lead back to the members, all of them and in order (`group_spec`).
-/

namespace ProtoClass

/-- No field after a member of a oneof has the member's number, so that the number stands for the member. -/
def MessageDecl.MembersKeepNumbers (decl : MessageDecl) : Prop :=
  decl.fields.Pairwise fun a b => a.memberOf ≠ none → a.number ≠ b.number

instance (decl : MessageDecl) : Decidable decl.MembersKeepNumbers :=
  inferInstanceAs (Decidable (decl.fields.Pairwise fun a b => a.memberOf ≠ none → a.number ≠ b.number))

theorem MessageDecl.membersKeepNumbers_of_nodup {decl : MessageDecl}
    (h : (decl.fields.map (·.number)).Nodup) : decl.MembersKeepNumbers := by
  unfold MembersKeepNumbers
  refine List.Pairwise.imp ?_ (List.pairwise_map.1 h)
  intro a b hne _
  exact hne

namespace ResolvedMessage

/-- The same of a resolved message. -/
def MembersKeepTags (message : ResolvedMessage) : Prop :=
  message.fields.Pairwise fun a b => a.oneof ≠ none → a.tag ≠ b.tag

/-- The field that a member's number stands for is the member. -/
theorem field_of_member {message : ResolvedMessage} (h : message.MembersKeepTags) {member : ResolvedField}
    (hmem : member ∈ message.fields) (hmember : member.oneof ≠ none) : message.field member.tag = .ok member := by
  have hfind : message.fields.reverse.find? (·.tag == member.tag) = some member := by
    obtain ⟨before, after, hsplit⟩ := List.append_of_mem hmem
    unfold MembersKeepTags at h
    rw [hsplit] at h ⊢
    have hafter := (List.pairwise_cons.1 (List.pairwise_append.1 h).2.1).1
    have hnone : after.reverse.find? (·.tag == member.tag) = none := by
      rw [List.find?_eq_none]
      intro other hother
      have := hafter other (List.mem_reverse.1 hother) hmember
      simpa using Ne.symm this
    simp [hnone]
  unfold field
  rw [hfind]

private theorem mapM_field {message : ResolvedMessage} {members : List ResolvedField}
    (h : ∀ member ∈ members, message.field member.tag = .ok member) :
    (members.map (·.tag)).mapM message.field = .ok members := by
  induction members with
  | nil => rfl
  | cons member rest ih =>
    rw [List.map_cons, List.mapM_cons, h member List.mem_cons_self,
      ih fun m hm => h m (List.mem_cons_of_mem _ hm)]
    rfl

end ResolvedMessage

namespace Catalog

variable {catalog : Catalog} {entry : Entry MessageDecl} {discriminator : String} {message : ResolvedMessage}

theorem IsResolved.membersKeepTags (h : IsResolved catalog entry discriminator message)
    (hnumbers : entry.decl.MembersKeepNumbers) : message.MembersKeepTags := by
  refine pairwise_of_forall₂ h.fields hnumbers fun a _ b _ resolved resolved' ha hb hab hmember => ?_
  rw [ha.tag, hb.tag]
  rw [ha.oneof] at hmember
  exact hab hmember

/-- The oneof of a member field: it is missing if the message does not declare it, and otherwise its members are all
fields that name it. -/
theorem IsResolved.group_spec (h : IsResolved catalog entry discriminator message) (htags : message.MembersKeepTags)
    {field : ResolvedField} {name : String} (hname : field.oneof = some name) :
    (entry.decl.oneof? name = none ∧
        message.group field = .error (.missingOneof message.identity.name field.name name)) ∨
      ∃ decl localName, entry.decl.oneof? name = some decl ∧
        message.group field =
          .ok ⟨message.identity, name, localName, message.fields.filter (·.oneof == some name)⟩ := by
  obtain ⟨given, honeofs⟩ := h.oneofs
  unfold ResolvedMessage.group ResolvedMessage.oneof? MessageDecl.oneof?
  rw [hname, honeofs]
  rcases find?_resolveOneofs message.fields given entry.decl.oneofs name with
    ⟨hdecl, hfind⟩ | ⟨decl, o, hdecl, hfind, honame, hmembers⟩
  · exact Or.inl ⟨hdecl, by simp only [hfind]; rfl⟩
  · refine Or.inr ⟨decl, o.localName, hdecl, ?_⟩
    have hfields : ∀ member ∈ message.fields.filter (·.oneof == some name),
        message.field member.tag = .ok member := by
      intro member hmember
      obtain ⟨hmem, honeof⟩ := List.mem_filter.1 hmember
      exact ResolvedMessage.field_of_member htags hmem (by simp [beq_iff_eq.1 honeof])
    simp only [hfind, hmembers, ResolvedMessage.mapM_field hfields, honame]
    rfl

end Catalog

end ProtoClass
