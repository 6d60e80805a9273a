/-
  What the library presents to its users: the version, and
  the public names, in the order in which they are presented.

  Key definitions include:
    * `Manifest.version`
    * `Manifest.publicNames`
-/

namespace Clearance

namespace Manifest

/- The version of the library. -/
def version : String :=
  "0.1.0"

/- The names that users may rely on. -/
def publicNames : List String :=
  [ "have_permission_for",
    "HavePermissionFor",
    "assert_permitted",
    "assert_not_permitted",
    "resolve",
    "humanize",
    "helper_names",
    "BEHAVIORS",
    "UnknownBehaviorError",
    "Resource",
    "Privilege",
    "ResolvedBehavior",
    "PermissionCheck",
    "Prefix",
    "Verdict"
  ]

end Manifest

end Clearance
