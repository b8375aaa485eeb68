import Analytics.Zone.Era
import Analytics.Zone.Season.Oceania

/-!
Histories of the zones named Australia.
-/

namespace Analytics.Zone.Region.Australia

def adelaide : List Era :=
  [ ⟨33260, .fixed 0, some ⟨1895, 2, .on 1, 0, .wall⟩⟩,
    ⟨32400, .fixed 0, some ⟨1899, 5, .on 1, 0, .wall⟩⟩,
    ⟨34200, .rules Season.australia, some ⟨1971, 1, .on 1, 0, .wall⟩⟩,
    ⟨34200, .rules Season.southAustralia, none⟩]

def brisbane : List Era :=
  [ ⟨36728, .fixed 0, some ⟨1895, 1, .on 1, 0, .wall⟩⟩,
    ⟨36000, .rules Season.australia, some ⟨1971, 1, .on 1, 0, .wall⟩⟩,
    ⟨36000, .rules Season.queensland, none⟩]

def brokenHill : List Era :=
  [ ⟨33948, .fixed 0, some ⟨1895, 2, .on 1, 0, .wall⟩⟩,
    ⟨36000, .fixed 0, some ⟨1896, 8, .on 23, 0, .wall⟩⟩,
    ⟨32400, .fixed 0, some ⟨1899, 5, .on 1, 0, .wall⟩⟩,
    ⟨34200, .rules Season.australia, some ⟨1971, 1, .on 1, 0, .wall⟩⟩,
    ⟨34200, .rules Season.newSouthWales, some ⟨2000, 1, .on 1, 0, .wall⟩⟩,
    ⟨34200, .rules Season.southAustralia, none⟩]

def darwin : List Era :=
  [ ⟨31400, .fixed 0, some ⟨1895, 2, .on 1, 0, .wall⟩⟩,
    ⟨32400, .fixed 0, some ⟨1899, 5, .on 1, 0, .wall⟩⟩,
    ⟨34200, .rules Season.australia, none⟩]

def eucla : List Era :=
  [ ⟨30928, .fixed 0, some ⟨1895, 12, .on 1, 0, .wall⟩⟩,
    ⟨31500, .rules Season.australia, some ⟨1943, 7, .on 1, 0, .wall⟩⟩,
    ⟨31500, .rules Season.westernAustralia, none⟩]

def hobart : List Era :=
  [ ⟨35356, .fixed 0, some ⟨1895, 9, .on 1, 0, .wall⟩⟩,
    ⟨36000, .rules Season.tasmania, some ⟨1919, 10, .on 24, 0, .wall⟩⟩,
    ⟨36000, .rules Season.australia, some ⟨1967, 1, .on 1, 0, .wall⟩⟩,
    ⟨36000, .rules Season.tasmania, none⟩]

def lindeman : List Era :=
  [ ⟨35756, .fixed 0, some ⟨1895, 1, .on 1, 0, .wall⟩⟩,
    ⟨36000, .rules Season.australia, some ⟨1971, 1, .on 1, 0, .wall⟩⟩,
    ⟨36000, .rules Season.queensland, some ⟨1992, 7, .on 1, 0, .wall⟩⟩,
    ⟨36000, .rules Season.holidayIslands, none⟩]

def lordHowe : List Era :=
  [ ⟨38180, .fixed 0, some ⟨1895, 2, .on 1, 0, .wall⟩⟩,
    ⟨36000, .fixed 0, some ⟨1981, 3, .on 1, 0, .wall⟩⟩,
    ⟨37800, .rules Season.lordHowe, some ⟨1985, 7, .on 1, 0, .wall⟩⟩,
    ⟨37800, .rules Season.lordHowe, none⟩]

def melbourne : List Era :=
  [ ⟨34792, .fixed 0, some ⟨1895, 2, .on 1, 0, .wall⟩⟩,
    ⟨36000, .rules Season.australia, some ⟨1971, 1, .on 1, 0, .wall⟩⟩,
    ⟨36000, .rules Season.victoria, none⟩]

def perth : List Era :=
  [ ⟨27804, .fixed 0, some ⟨1895, 12, .on 1, 0, .wall⟩⟩,
    ⟨28800, .rules Season.australia, some ⟨1943, 7, .on 1, 0, .wall⟩⟩,
    ⟨28800, .rules Season.westernAustralia, none⟩]

def sydney : List Era :=
  [ ⟨36292, .fixed 0, some ⟨1895, 2, .on 1, 0, .wall⟩⟩,
    ⟨36000, .rules Season.australia, some ⟨1971, 1, .on 1, 0, .wall⟩⟩,
    ⟨36000, .rules Season.newSouthWales, none⟩]

def all : List (String × List Era) :=
  [ ("Australia/Adelaide", adelaide),
    ("Australia/Brisbane", brisbane),
    ("Australia/Broken_Hill", brokenHill),
    ("Australia/Darwin", darwin),
    ("Australia/Eucla", eucla),
    ("Australia/Hobart", hobart),
    ("Australia/Lindeman", lindeman),
    ("Australia/Lord_Howe", lordHowe),
    ("Australia/Melbourne", melbourne),
    ("Australia/Perth", perth),
    ("Australia/Sydney", sydney)]

end Analytics.Zone.Region.Australia
