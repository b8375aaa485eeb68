import Analytics.Zone.Era
import Analytics.Zone.Season.Africa
import Analytics.Zone.Season.Europe

/-!
Histories of the zones named Africa.
-/

namespace Analytics.Zone.Region.Africa

def abidjan : List Era :=
  [ ⟨-968, .fixed 0, some ⟨1912, 1, .on 1, 0, .wall⟩⟩,
    ⟨0, .fixed 0, none⟩]

def algiers : List Era :=
  [ ⟨732, .fixed 0, some ⟨1891, 3, .on 16, 0, .wall⟩⟩,
    ⟨561, .fixed 0, some ⟨1911, 3, .on 11, 0, .wall⟩⟩,
    ⟨0, .rules Season.algeria, some ⟨1940, 2, .on 25, 7200, .wall⟩⟩,
    ⟨3600, .rules Season.algeria, some ⟨1946, 10, .on 7, 0, .wall⟩⟩,
    ⟨0, .fixed 0, some ⟨1956, 1, .on 29, 0, .wall⟩⟩,
    ⟨3600, .fixed 0, some ⟨1963, 4, .on 14, 0, .wall⟩⟩,
    ⟨0, .rules Season.algeria, some ⟨1977, 10, .on 21, 0, .wall⟩⟩,
    ⟨3600, .rules Season.algeria, some ⟨1979, 10, .on 26, 0, .wall⟩⟩,
    ⟨0, .rules Season.algeria, some ⟨1981, 5, .on 1, 0, .wall⟩⟩,
    ⟨3600, .fixed 0, none⟩]

def bissau : List Era :=
  [ ⟨-3740, .fixed 0, some ⟨1912, 1, .on 1, 3600, .universal⟩⟩,
    ⟨-3600, .fixed 0, some ⟨1975, 1, .on 1, 0, .wall⟩⟩,
    ⟨0, .fixed 0, none⟩]

def cairo : List Era :=
  [ ⟨7509, .fixed 0, some ⟨1900, 10, .on 1, 0, .wall⟩⟩,
    ⟨7200, .rules Season.egypt, none⟩]

def casablanca : List Era :=
  [ ⟨-1820, .fixed 0, some ⟨1913, 10, .on 26, 0, .wall⟩⟩,
    ⟨0, .rules Season.morocco, some ⟨1984, 3, .on 16, 0, .wall⟩⟩,
    ⟨3600, .fixed 0, some ⟨1986, 1, .on 1, 0, .wall⟩⟩,
    ⟨0, .rules Season.morocco, some ⟨2018, 10, .on 28, 10800, .wall⟩⟩,
    ⟨0, .rules Season.morocco, none⟩]

def ceuta : List Era :=
  [ ⟨-1276, .fixed 0, some ⟨1901, 1, .on 1, 0, .universal⟩⟩,
    ⟨0, .fixed 0, some ⟨1918, 5, .on 6, 82800, .wall⟩⟩,
    ⟨0, .fixed 3600, some ⟨1918, 10, .on 7, 82800, .wall⟩⟩,
    ⟨0, .fixed 0, some ⟨1924, 1, .on 1, 0, .wall⟩⟩,
    ⟨0, .rules Season.spain, some ⟨1929, 1, .on 1, 0, .wall⟩⟩,
    ⟨0, .fixed 0, some ⟨1967, 1, .on 1, 0, .wall⟩⟩,
    ⟨0, .rules Season.spanishAfrica, some ⟨1984, 3, .on 16, 0, .wall⟩⟩,
    ⟨3600, .fixed 0, some ⟨1986, 1, .on 1, 0, .wall⟩⟩,
    ⟨3600, .rules Season.europeanUnion, none⟩]

def elAaiun : List Era :=
  [ ⟨-3168, .fixed 0, some ⟨1934, 1, .on 1, 0, .wall⟩⟩,
    ⟨-3600, .fixed 0, some ⟨1976, 4, .on 14, 0, .wall⟩⟩,
    ⟨0, .rules Season.morocco, some ⟨2018, 10, .on 28, 10800, .wall⟩⟩,
    ⟨0, .rules Season.morocco, none⟩]

def johannesburg : List Era :=
  [ ⟨6720, .fixed 0, some ⟨1892, 2, .on 8, 0, .wall⟩⟩,
    ⟨5400, .fixed 0, some ⟨1903, 3, .on 1, 0, .wall⟩⟩,
    ⟨7200, .rules Season.southAfrica, none⟩]

def juba : List Era :=
  [ ⟨7588, .fixed 0, some ⟨1931, 1, .on 1, 0, .wall⟩⟩,
    ⟨7200, .rules Season.sudan, some ⟨2000, 1, .on 15, 43200, .wall⟩⟩,
    ⟨10800, .fixed 0, some ⟨2021, 2, .on 1, 0, .wall⟩⟩,
    ⟨7200, .fixed 0, none⟩]

def khartoum : List Era :=
  [ ⟨7808, .fixed 0, some ⟨1931, 1, .on 1, 0, .wall⟩⟩,
    ⟨7200, .rules Season.sudan, some ⟨2000, 1, .on 15, 43200, .wall⟩⟩,
    ⟨10800, .fixed 0, some ⟨2017, 11, .on 1, 0, .wall⟩⟩,
    ⟨7200, .fixed 0, none⟩]

def lagos : List Era :=
  [ ⟨815, .fixed 0, some ⟨1905, 7, .on 1, 0, .wall⟩⟩,
    ⟨0, .fixed 0, some ⟨1908, 7, .on 1, 0, .wall⟩⟩,
    ⟨815, .fixed 0, some ⟨1914, 1, .on 1, 0, .wall⟩⟩,
    ⟨1800, .fixed 0, some ⟨1919, 9, .on 1, 0, .wall⟩⟩,
    ⟨3600, .fixed 0, none⟩]

def maputo : List Era :=
  [ ⟨7818, .fixed 0, some ⟨1909, 1, .on 1, 0, .wall⟩⟩,
    ⟨7200, .fixed 0, none⟩]

def monrovia : List Era :=
  [ ⟨-2588, .fixed 0, some ⟨1882, 1, .on 1, 0, .wall⟩⟩,
    ⟨-2588, .fixed 0, some ⟨1919, 3, .on 1, 0, .wall⟩⟩,
    ⟨-2670, .fixed 0, some ⟨1972, 1, .on 7, 0, .wall⟩⟩,
    ⟨0, .fixed 0, none⟩]

def nairobi : List Era :=
  [ ⟨8836, .fixed 0, some ⟨1908, 5, .on 1, 0, .wall⟩⟩,
    ⟨9000, .fixed 0, some ⟨1928, 6, .on 30, 86400, .wall⟩⟩,
    ⟨10800, .fixed 0, some ⟨1930, 1, .on 4, 86400, .wall⟩⟩,
    ⟨9000, .fixed 0, some ⟨1936, 12, .on 31, 86400, .wall⟩⟩,
    ⟨9900, .fixed 0, some ⟨1942, 7, .on 31, 86400, .wall⟩⟩,
    ⟨10800, .fixed 0, none⟩]

def ndjamena : List Era :=
  [ ⟨3612, .fixed 0, some ⟨1912, 1, .on 1, 0, .wall⟩⟩,
    ⟨3600, .fixed 0, some ⟨1979, 10, .on 14, 0, .wall⟩⟩,
    ⟨3600, .fixed 3600, some ⟨1980, 3, .on 8, 0, .wall⟩⟩,
    ⟨3600, .fixed 0, none⟩]

def saoTome : List Era :=
  [ ⟨1616, .fixed 0, some ⟨1884, 1, .on 1, 0, .wall⟩⟩,
    ⟨-2205, .fixed 0, some ⟨1912, 1, .on 1, 0, .universal⟩⟩,
    ⟨0, .fixed 0, some ⟨2018, 1, .on 1, 3600, .wall⟩⟩,
    ⟨3600, .fixed 0, some ⟨2019, 1, .on 1, 7200, .wall⟩⟩,
    ⟨0, .fixed 0, none⟩]

def tripoli : List Era :=
  [ ⟨3164, .fixed 0, some ⟨1920, 1, .on 1, 0, .wall⟩⟩,
    ⟨3600, .rules Season.libya, some ⟨1959, 1, .on 1, 0, .wall⟩⟩,
    ⟨7200, .fixed 0, some ⟨1982, 1, .on 1, 0, .wall⟩⟩,
    ⟨3600, .rules Season.libya, some ⟨1990, 5, .on 4, 0, .wall⟩⟩,
    ⟨7200, .fixed 0, some ⟨1996, 9, .on 30, 0, .wall⟩⟩,
    ⟨3600, .rules Season.libya, some ⟨1997, 10, .on 4, 0, .wall⟩⟩,
    ⟨7200, .fixed 0, some ⟨2012, 11, .on 10, 7200, .wall⟩⟩,
    ⟨3600, .rules Season.libya, some ⟨2013, 10, .on 25, 7200, .wall⟩⟩,
    ⟨7200, .fixed 0, none⟩]

def tunis : List Era :=
  [ ⟨2444, .fixed 0, some ⟨1881, 5, .on 12, 0, .wall⟩⟩,
    ⟨561, .fixed 0, some ⟨1911, 3, .on 11, 0, .wall⟩⟩,
    ⟨3600, .rules Season.tunisia, none⟩]

def windhoek : List Era :=
  [ ⟨4104, .fixed 0, some ⟨1892, 2, .on 8, 0, .wall⟩⟩,
    ⟨5400, .fixed 0, some ⟨1903, 3, .on 1, 0, .wall⟩⟩,
    ⟨7200, .fixed 0, some ⟨1942, 9, .on 20, 7200, .wall⟩⟩,
    ⟨7200, .fixed 3600, some ⟨1943, 3, .on 21, 7200, .wall⟩⟩,
    ⟨7200, .fixed 0, some ⟨1990, 3, .on 21, 0, .wall⟩⟩,
    ⟨7200, .fixed 0, some ⟨1994, 3, .on 21, 0, .wall⟩⟩,
    ⟨3600, .rules Season.namibia, some ⟨2017, 10, .on 24, 0, .wall⟩⟩,
    ⟨7200, .fixed 0, none⟩]

def all : List (String × List Era) :=
  [ ("Africa/Abidjan", abidjan),
    ("Africa/Algiers", algiers),
    ("Africa/Bissau", bissau),
    ("Africa/Cairo", cairo),
    ("Africa/Casablanca", casablanca),
    ("Africa/Ceuta", ceuta),
    ("Africa/El_Aaiun", elAaiun),
    ("Africa/Johannesburg", johannesburg),
    ("Africa/Juba", juba),
    ("Africa/Khartoum", khartoum),
    ("Africa/Lagos", lagos),
    ("Africa/Maputo", maputo),
    ("Africa/Monrovia", monrovia),
    ("Africa/Nairobi", nairobi),
    ("Africa/Ndjamena", ndjamena),
    ("Africa/Sao_Tome", saoTome),
    ("Africa/Tripoli", tripoli),
    ("Africa/Tunis", tunis),
    ("Africa/Windhoek", windhoek)]

end Analytics.Zone.Region.Africa
