import SteadyStore.Cause
/-!
# Descriptions of chains

The description of a chain is what its links say, in order and with one blank in between
(`describe_eq_intercalate`). So a message on top of a chain is described in front of it
(`describe_wrap`).
-/

namespace SteadyStore

/-- What a link says in a description. -/
def Link.saying (link : Link) : String := "caused by " ++ link.text

namespace Cause

theorem saying_ne_empty (link : Link) : link.saying ≠ "" := fun empty =>
  absurd (String.append_eq_empty_iff.1 empty).1 (by decide)

theorem describeLink_empty (link : Link) : describeLink "" link = link.saying := by
  simp [describeLink, Link.saying]

theorem describeLink_of_ne_empty {description : String} (h : description ≠ "") (link : Link) :
    describeLink description link = description ++ " " ++ link.saying := by
  simp only [describeLink, Link.saying, String.isEmpty_iff, h, if_false, String.append_assoc]

theorem foldl_describeLink {description : String} (h : description ≠ "") (links : List Link) :
    links.foldl describeLink description =
      " ".intercalate (description :: links.map Link.saying) := by
  induction links generalizing description with
  | nil => simp
  | cons link links ih =>
    have longer : description ++ " " ++ link.saying ≠ "" := fun empty =>
      saying_ne_empty link (String.append_eq_empty_iff.1 empty).2
    rw [List.foldl_cons, describeLink_of_ne_empty h, ih longer, List.map_cons,
      String.intercalate_cons_cons, String.intercalate_cons_append]

theorem describe_eq_intercalate (cause : Cause) :
    cause.describe = " ".intercalate (cause.links.map Link.saying) := by
  rw [describe, links, List.foldl_cons, describeLink_empty,
    foldl_describeLink (saying_ne_empty _), List.map_cons]

theorem describe_wrap (message : String) (cause : Cause) :
    (cause.wrap message).describe = "caused by " ++ message ++ " " ++ cause.describe := by
  rw [describe_eq_intercalate, describe_eq_intercalate]
  simp only [wrap, links, List.map_cons, String.intercalate_cons_cons]
  rfl

end Cause

end SteadyStore
