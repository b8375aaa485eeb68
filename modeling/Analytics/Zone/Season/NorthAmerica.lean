import Analytics.Zone.Season

/-!
Seasonal clock changes of North and Central America.
-/

namespace Analytics.Zone.Season

def thule : List SeasonRule :=
  [ ⟨1991, 1992, 3, .last 0, 7200, .wall, 3600⟩,
    ⟨1991, 1992, 9, .last 0, 7200, .wall, 0⟩,
    ⟨1993, 2006, 4, .onOrAfter 0 1, 7200, .wall, 3600⟩,
    ⟨1993, 2006, 10, .last 0, 7200, .wall, 0⟩,
    ⟨2007, 9999, 3, .onOrAfter 0 8, 7200, .wall, 3600⟩,
    ⟨2007, 9999, 11, .onOrAfter 0 1, 7200, .wall, 0⟩]

def unitedStates : List SeasonRule :=
  [ ⟨1918, 1919, 3, .last 0, 7200, .wall, 3600⟩,
    ⟨1918, 1919, 10, .last 0, 7200, .wall, 0⟩,
    ⟨1942, 1942, 2, .on 9, 7200, .wall, 3600⟩,
    ⟨1945, 1945, 8, .on 14, 82800, .universal, 3600⟩,
    ⟨1945, 1945, 9, .on 30, 7200, .wall, 0⟩,
    ⟨1967, 2006, 10, .last 0, 7200, .wall, 0⟩,
    ⟨1967, 1973, 4, .last 0, 7200, .wall, 3600⟩,
    ⟨1974, 1974, 1, .on 6, 7200, .wall, 3600⟩,
    ⟨1975, 1975, 2, .last 0, 7200, .wall, 3600⟩,
    ⟨1976, 1986, 4, .last 0, 7200, .wall, 3600⟩,
    ⟨1987, 2006, 4, .onOrAfter 0 1, 7200, .wall, 3600⟩,
    ⟨2007, 9999, 3, .onOrAfter 0 8, 7200, .wall, 3600⟩,
    ⟨2007, 9999, 11, .onOrAfter 0 1, 7200, .wall, 0⟩]

def newYork : List SeasonRule :=
  [ ⟨1920, 1920, 3, .last 0, 7200, .wall, 3600⟩,
    ⟨1920, 1920, 10, .last 0, 7200, .wall, 0⟩,
    ⟨1921, 1966, 4, .last 0, 7200, .wall, 3600⟩,
    ⟨1921, 1954, 9, .last 0, 7200, .wall, 0⟩,
    ⟨1955, 1966, 10, .last 0, 7200, .wall, 0⟩]

def chicago : List SeasonRule :=
  [ ⟨1920, 1920, 6, .on 13, 7200, .wall, 3600⟩,
    ⟨1920, 1921, 10, .last 0, 7200, .wall, 0⟩,
    ⟨1921, 1921, 3, .last 0, 7200, .wall, 3600⟩,
    ⟨1922, 1966, 4, .last 0, 7200, .wall, 3600⟩,
    ⟨1922, 1954, 9, .last 0, 7200, .wall, 0⟩,
    ⟨1955, 1966, 10, .last 0, 7200, .wall, 0⟩]

def denver : List SeasonRule :=
  [ ⟨1920, 1921, 3, .last 0, 7200, .wall, 3600⟩,
    ⟨1920, 1920, 10, .last 0, 7200, .wall, 0⟩,
    ⟨1921, 1921, 5, .on 22, 7200, .wall, 0⟩,
    ⟨1965, 1966, 4, .last 0, 7200, .wall, 3600⟩,
    ⟨1965, 1966, 10, .last 0, 7200, .wall, 0⟩]

def california : List SeasonRule :=
  [ ⟨1948, 1948, 3, .on 14, 7260, .wall, 3600⟩,
    ⟨1949, 1949, 1, .on 1, 7200, .wall, 0⟩,
    ⟨1950, 1966, 4, .last 0, 3600, .wall, 3600⟩,
    ⟨1950, 1961, 9, .last 0, 7200, .wall, 0⟩,
    ⟨1962, 1966, 10, .last 0, 7200, .wall, 0⟩]

def indianapolis : List SeasonRule :=
  [ ⟨1941, 1941, 6, .on 22, 7200, .wall, 3600⟩,
    ⟨1941, 1954, 9, .last 0, 7200, .wall, 0⟩,
    ⟨1946, 1954, 4, .last 0, 7200, .wall, 3600⟩]

def marengo : List SeasonRule :=
  [ ⟨1951, 1951, 4, .last 0, 7200, .wall, 3600⟩,
    ⟨1951, 1951, 9, .last 0, 7200, .wall, 0⟩,
    ⟨1954, 1960, 4, .last 0, 7200, .wall, 3600⟩,
    ⟨1954, 1960, 9, .last 0, 7200, .wall, 0⟩]

def vincennes : List SeasonRule :=
  [ ⟨1946, 1946, 4, .last 0, 7200, .wall, 3600⟩,
    ⟨1946, 1946, 9, .last 0, 7200, .wall, 0⟩,
    ⟨1953, 1954, 4, .last 0, 7200, .wall, 3600⟩,
    ⟨1953, 1959, 9, .last 0, 7200, .wall, 0⟩,
    ⟨1955, 1955, 5, .on 1, 0, .wall, 3600⟩,
    ⟨1956, 1963, 4, .last 0, 7200, .wall, 3600⟩,
    ⟨1960, 1960, 10, .last 0, 7200, .wall, 0⟩,
    ⟨1961, 1961, 9, .last 0, 7200, .wall, 0⟩,
    ⟨1962, 1963, 10, .last 0, 7200, .wall, 0⟩]

def perry : List SeasonRule :=
  [ ⟨1955, 1955, 5, .on 1, 0, .wall, 3600⟩,
    ⟨1955, 1960, 9, .last 0, 7200, .wall, 0⟩,
    ⟨1956, 1963, 4, .last 0, 7200, .wall, 3600⟩,
    ⟨1961, 1963, 10, .last 0, 7200, .wall, 0⟩]

def pike : List SeasonRule :=
  [ ⟨1955, 1955, 5, .on 1, 0, .wall, 3600⟩,
    ⟨1955, 1960, 9, .last 0, 7200, .wall, 0⟩,
    ⟨1956, 1964, 4, .last 0, 7200, .wall, 3600⟩,
    ⟨1961, 1964, 10, .last 0, 7200, .wall, 0⟩]

def starke : List SeasonRule :=
  [ ⟨1947, 1961, 4, .last 0, 7200, .wall, 3600⟩,
    ⟨1947, 1954, 9, .last 0, 7200, .wall, 0⟩,
    ⟨1955, 1956, 10, .last 0, 7200, .wall, 0⟩,
    ⟨1957, 1958, 9, .last 0, 7200, .wall, 0⟩,
    ⟨1959, 1961, 10, .last 0, 7200, .wall, 0⟩]

def pulaski : List SeasonRule :=
  [ ⟨1946, 1960, 4, .last 0, 7200, .wall, 3600⟩,
    ⟨1946, 1954, 9, .last 0, 7200, .wall, 0⟩,
    ⟨1955, 1956, 10, .last 0, 7200, .wall, 0⟩,
    ⟨1957, 1960, 9, .last 0, 7200, .wall, 0⟩]

def louisville : List SeasonRule :=
  [ ⟨1921, 1921, 5, .on 1, 7200, .wall, 3600⟩,
    ⟨1921, 1921, 9, .on 1, 7200, .wall, 0⟩,
    ⟨1941, 1941, 4, .last 0, 7200, .wall, 3600⟩,
    ⟨1941, 1941, 9, .last 0, 7200, .wall, 0⟩,
    ⟨1946, 1946, 4, .last 0, 60, .wall, 3600⟩,
    ⟨1946, 1946, 6, .on 2, 7200, .wall, 0⟩,
    ⟨1950, 1961, 4, .last 0, 7200, .wall, 3600⟩,
    ⟨1950, 1955, 9, .last 0, 7200, .wall, 0⟩,
    ⟨1956, 1961, 10, .last 0, 7200, .wall, 0⟩]

def detroit : List SeasonRule :=
  [ ⟨1948, 1948, 4, .last 0, 7200, .wall, 3600⟩,
    ⟨1948, 1948, 9, .last 0, 7200, .wall, 0⟩]

def menominee : List SeasonRule :=
  [ ⟨1946, 1946, 4, .last 0, 7200, .wall, 3600⟩,
    ⟨1946, 1946, 9, .last 0, 7200, .wall, 0⟩,
    ⟨1966, 1966, 4, .last 0, 7200, .wall, 3600⟩,
    ⟨1966, 1966, 10, .last 0, 7200, .wall, 0⟩]

def canada : List SeasonRule :=
  [ ⟨1918, 1918, 4, .on 14, 7200, .wall, 3600⟩,
    ⟨1918, 1918, 10, .on 27, 7200, .wall, 0⟩,
    ⟨1942, 1942, 2, .on 9, 7200, .wall, 3600⟩,
    ⟨1945, 1945, 8, .on 14, 82800, .universal, 3600⟩,
    ⟨1945, 1945, 9, .on 30, 7200, .wall, 0⟩,
    ⟨1974, 1986, 4, .last 0, 7200, .wall, 3600⟩,
    ⟨1974, 2006, 10, .last 0, 7200, .wall, 0⟩,
    ⟨1987, 2006, 4, .onOrAfter 0 1, 7200, .wall, 3600⟩,
    ⟨2007, 9999, 3, .onOrAfter 0 8, 7200, .wall, 3600⟩,
    ⟨2007, 9999, 11, .onOrAfter 0 1, 7200, .wall, 0⟩]

def stJohns : List SeasonRule :=
  [ ⟨1917, 1917, 4, .on 8, 7200, .wall, 3600⟩,
    ⟨1917, 1917, 9, .on 17, 7200, .wall, 0⟩,
    ⟨1919, 1919, 5, .on 5, 82800, .wall, 3600⟩,
    ⟨1919, 1919, 8, .on 12, 82800, .wall, 0⟩,
    ⟨1920, 1935, 5, .onOrAfter 0 1, 82800, .wall, 3600⟩,
    ⟨1920, 1935, 10, .last 0, 82800, .wall, 0⟩,
    ⟨1936, 1941, 5, .onOrAfter 1 9, 0, .wall, 3600⟩,
    ⟨1936, 1941, 10, .onOrAfter 1 2, 0, .wall, 0⟩,
    ⟨1946, 1950, 5, .onOrAfter 0 8, 7200, .wall, 3600⟩,
    ⟨1946, 1950, 10, .onOrAfter 0 2, 7200, .wall, 0⟩,
    ⟨1951, 1986, 4, .last 0, 7200, .wall, 3600⟩,
    ⟨1951, 1959, 9, .last 0, 7200, .wall, 0⟩,
    ⟨1960, 1986, 10, .last 0, 7200, .wall, 0⟩,
    ⟨1987, 1987, 4, .onOrAfter 0 1, 60, .wall, 3600⟩,
    ⟨1987, 2006, 10, .last 0, 60, .wall, 0⟩,
    ⟨1988, 1988, 4, .onOrAfter 0 1, 60, .wall, 7200⟩,
    ⟨1989, 2006, 4, .onOrAfter 0 1, 60, .wall, 3600⟩,
    ⟨2007, 2011, 3, .onOrAfter 0 8, 60, .wall, 3600⟩,
    ⟨2007, 2010, 11, .onOrAfter 0 1, 60, .wall, 0⟩]

def halifax : List SeasonRule :=
  [ ⟨1916, 1916, 4, .on 1, 0, .wall, 3600⟩,
    ⟨1916, 1916, 10, .on 1, 0, .wall, 0⟩,
    ⟨1920, 1920, 5, .on 9, 0, .wall, 3600⟩,
    ⟨1920, 1920, 8, .on 29, 0, .wall, 0⟩,
    ⟨1921, 1921, 5, .on 6, 0, .wall, 3600⟩,
    ⟨1921, 1922, 9, .on 5, 0, .wall, 0⟩,
    ⟨1922, 1922, 4, .on 30, 0, .wall, 3600⟩,
    ⟨1923, 1925, 5, .onOrAfter 0 1, 0, .wall, 3600⟩,
    ⟨1923, 1923, 9, .on 4, 0, .wall, 0⟩,
    ⟨1924, 1924, 9, .on 15, 0, .wall, 0⟩,
    ⟨1925, 1925, 9, .on 28, 0, .wall, 0⟩,
    ⟨1926, 1926, 5, .on 16, 0, .wall, 3600⟩,
    ⟨1926, 1926, 9, .on 13, 0, .wall, 0⟩,
    ⟨1927, 1927, 5, .on 1, 0, .wall, 3600⟩,
    ⟨1927, 1927, 9, .on 26, 0, .wall, 0⟩,
    ⟨1928, 1931, 5, .onOrAfter 0 8, 0, .wall, 3600⟩,
    ⟨1928, 1928, 9, .on 9, 0, .wall, 0⟩,
    ⟨1929, 1929, 9, .on 3, 0, .wall, 0⟩,
    ⟨1930, 1930, 9, .on 15, 0, .wall, 0⟩,
    ⟨1931, 1932, 9, .onOrAfter 1 24, 0, .wall, 0⟩,
    ⟨1932, 1932, 5, .on 1, 0, .wall, 3600⟩,
    ⟨1933, 1933, 4, .on 30, 0, .wall, 3600⟩,
    ⟨1933, 1933, 10, .on 2, 0, .wall, 0⟩,
    ⟨1934, 1934, 5, .on 20, 0, .wall, 3600⟩,
    ⟨1934, 1934, 9, .on 16, 0, .wall, 0⟩,
    ⟨1935, 1935, 6, .on 2, 0, .wall, 3600⟩,
    ⟨1935, 1935, 9, .on 30, 0, .wall, 0⟩,
    ⟨1936, 1936, 6, .on 1, 0, .wall, 3600⟩,
    ⟨1936, 1936, 9, .on 14, 0, .wall, 0⟩,
    ⟨1937, 1938, 5, .onOrAfter 0 1, 0, .wall, 3600⟩,
    ⟨1937, 1941, 9, .onOrAfter 1 24, 0, .wall, 0⟩,
    ⟨1939, 1939, 5, .on 28, 0, .wall, 3600⟩,
    ⟨1940, 1941, 5, .onOrAfter 0 1, 0, .wall, 3600⟩,
    ⟨1946, 1949, 4, .last 0, 7200, .wall, 3600⟩,
    ⟨1946, 1949, 9, .last 0, 7200, .wall, 0⟩,
    ⟨1951, 1954, 4, .last 0, 7200, .wall, 3600⟩,
    ⟨1951, 1954, 9, .last 0, 7200, .wall, 0⟩,
    ⟨1956, 1959, 4, .last 0, 7200, .wall, 3600⟩,
    ⟨1956, 1959, 9, .last 0, 7200, .wall, 0⟩,
    ⟨1962, 1973, 4, .last 0, 7200, .wall, 3600⟩,
    ⟨1962, 1973, 10, .last 0, 7200, .wall, 0⟩]

def moncton : List SeasonRule :=
  [ ⟨1933, 1935, 6, .onOrAfter 0 8, 3600, .wall, 3600⟩,
    ⟨1933, 1935, 9, .onOrAfter 0 8, 3600, .wall, 0⟩,
    ⟨1936, 1938, 6, .onOrAfter 0 1, 3600, .wall, 3600⟩,
    ⟨1936, 1938, 9, .onOrAfter 0 1, 3600, .wall, 0⟩,
    ⟨1939, 1939, 5, .on 27, 3600, .wall, 3600⟩,
    ⟨1939, 1941, 9, .onOrAfter 6 21, 3600, .wall, 0⟩,
    ⟨1940, 1940, 5, .on 19, 3600, .wall, 3600⟩,
    ⟨1941, 1941, 5, .on 4, 3600, .wall, 3600⟩,
    ⟨1946, 1972, 4, .last 0, 7200, .wall, 3600⟩,
    ⟨1946, 1956, 9, .last 0, 7200, .wall, 0⟩,
    ⟨1957, 1972, 10, .last 0, 7200, .wall, 0⟩,
    ⟨1993, 2006, 4, .onOrAfter 0 1, 60, .wall, 3600⟩,
    ⟨1993, 2006, 10, .last 0, 60, .wall, 0⟩]

def toronto : List SeasonRule :=
  [ ⟨1919, 1919, 3, .on 30, 84600, .wall, 3600⟩,
    ⟨1919, 1919, 10, .on 26, 0, .wall, 0⟩,
    ⟨1920, 1920, 5, .on 2, 7200, .wall, 3600⟩,
    ⟨1920, 1920, 9, .on 26, 0, .wall, 0⟩,
    ⟨1921, 1921, 5, .on 15, 7200, .wall, 3600⟩,
    ⟨1921, 1921, 9, .on 15, 7200, .wall, 0⟩,
    ⟨1922, 1923, 5, .onOrAfter 0 8, 7200, .wall, 3600⟩,
    ⟨1922, 1926, 9, .onOrAfter 0 15, 7200, .wall, 0⟩,
    ⟨1924, 1927, 5, .onOrAfter 0 1, 7200, .wall, 3600⟩,
    ⟨1927, 1937, 9, .onOrAfter 0 25, 7200, .wall, 0⟩,
    ⟨1928, 1937, 4, .onOrAfter 0 25, 7200, .wall, 3600⟩,
    ⟨1938, 1940, 4, .last 0, 7200, .wall, 3600⟩,
    ⟨1938, 1939, 9, .last 0, 7200, .wall, 0⟩,
    ⟨1945, 1948, 9, .last 0, 7200, .wall, 0⟩,
    ⟨1946, 1973, 4, .last 0, 7200, .wall, 3600⟩,
    ⟨1949, 1950, 11, .last 0, 7200, .wall, 0⟩,
    ⟨1951, 1956, 9, .last 0, 7200, .wall, 0⟩,
    ⟨1957, 1973, 10, .last 0, 7200, .wall, 0⟩]

def winnipeg : List SeasonRule :=
  [ ⟨1916, 1916, 4, .on 23, 0, .wall, 3600⟩,
    ⟨1916, 1916, 9, .on 17, 0, .wall, 0⟩,
    ⟨1918, 1918, 4, .on 14, 7200, .wall, 3600⟩,
    ⟨1918, 1918, 10, .on 27, 7200, .wall, 0⟩,
    ⟨1937, 1937, 5, .on 16, 7200, .wall, 3600⟩,
    ⟨1937, 1937, 9, .on 26, 7200, .wall, 0⟩,
    ⟨1942, 1942, 2, .on 9, 7200, .wall, 3600⟩,
    ⟨1945, 1945, 8, .on 14, 82800, .universal, 3600⟩,
    ⟨1945, 1945, 9, .last 0, 7200, .wall, 0⟩,
    ⟨1946, 1946, 5, .on 12, 7200, .wall, 3600⟩,
    ⟨1946, 1946, 10, .on 13, 7200, .wall, 0⟩,
    ⟨1947, 1949, 4, .last 0, 7200, .wall, 3600⟩,
    ⟨1947, 1949, 9, .last 0, 7200, .wall, 0⟩,
    ⟨1950, 1950, 5, .on 1, 7200, .wall, 3600⟩,
    ⟨1950, 1950, 9, .on 30, 7200, .wall, 0⟩,
    ⟨1951, 1960, 4, .last 0, 7200, .wall, 3600⟩,
    ⟨1951, 1958, 9, .last 0, 7200, .wall, 0⟩,
    ⟨1959, 1959, 10, .last 0, 7200, .wall, 0⟩,
    ⟨1960, 1960, 9, .last 0, 7200, .wall, 0⟩,
    ⟨1963, 1963, 4, .last 0, 7200, .wall, 3600⟩,
    ⟨1963, 1963, 9, .on 22, 7200, .wall, 0⟩,
    ⟨1966, 1986, 4, .last 0, 7200, .standard, 3600⟩,
    ⟨1966, 2005, 10, .last 0, 7200, .standard, 0⟩,
    ⟨1987, 2005, 4, .onOrAfter 0 1, 7200, .standard, 3600⟩]

def regina : List SeasonRule :=
  [ ⟨1918, 1918, 4, .on 14, 7200, .wall, 3600⟩,
    ⟨1918, 1918, 10, .on 27, 7200, .wall, 0⟩,
    ⟨1930, 1934, 5, .onOrAfter 0 1, 0, .wall, 3600⟩,
    ⟨1930, 1934, 10, .onOrAfter 0 1, 0, .wall, 0⟩,
    ⟨1937, 1941, 4, .onOrAfter 0 8, 0, .wall, 3600⟩,
    ⟨1937, 1937, 10, .onOrAfter 0 8, 0, .wall, 0⟩,
    ⟨1938, 1938, 10, .onOrAfter 0 1, 0, .wall, 0⟩,
    ⟨1939, 1941, 10, .onOrAfter 0 8, 0, .wall, 0⟩,
    ⟨1942, 1942, 2, .on 9, 7200, .wall, 3600⟩,
    ⟨1945, 1945, 8, .on 14, 82800, .universal, 3600⟩,
    ⟨1945, 1945, 9, .last 0, 7200, .wall, 0⟩,
    ⟨1946, 1946, 4, .onOrAfter 0 8, 7200, .wall, 3600⟩,
    ⟨1946, 1946, 10, .onOrAfter 0 8, 7200, .wall, 0⟩,
    ⟨1947, 1957, 4, .last 0, 7200, .wall, 3600⟩,
    ⟨1947, 1957, 9, .last 0, 7200, .wall, 0⟩,
    ⟨1959, 1959, 4, .last 0, 7200, .wall, 3600⟩,
    ⟨1959, 1959, 10, .last 0, 7200, .wall, 0⟩]

def swiftCurrent : List SeasonRule :=
  [ ⟨1957, 1957, 4, .last 0, 7200, .wall, 3600⟩,
    ⟨1957, 1957, 10, .last 0, 7200, .wall, 0⟩,
    ⟨1959, 1961, 4, .last 0, 7200, .wall, 3600⟩,
    ⟨1959, 1959, 10, .last 0, 7200, .wall, 0⟩,
    ⟨1960, 1961, 9, .last 0, 7200, .wall, 0⟩]

def edmonton : List SeasonRule :=
  [ ⟨1918, 1919, 4, .onOrAfter 0 8, 7200, .wall, 3600⟩,
    ⟨1918, 1918, 10, .on 27, 7200, .wall, 0⟩,
    ⟨1919, 1919, 5, .on 27, 7200, .wall, 0⟩,
    ⟨1920, 1923, 4, .last 0, 7200, .wall, 3600⟩,
    ⟨1920, 1920, 10, .last 0, 7200, .wall, 0⟩,
    ⟨1921, 1923, 9, .last 0, 7200, .wall, 0⟩,
    ⟨1942, 1942, 2, .on 9, 7200, .wall, 3600⟩,
    ⟨1945, 1945, 8, .on 14, 82800, .universal, 3600⟩,
    ⟨1945, 1945, 9, .last 0, 7200, .wall, 0⟩,
    ⟨1947, 1947, 4, .last 0, 7200, .wall, 3600⟩,
    ⟨1947, 1947, 9, .last 0, 7200, .wall, 0⟩,
    ⟨1972, 1986, 4, .last 0, 7200, .wall, 3600⟩,
    ⟨1972, 2006, 10, .last 0, 7200, .wall, 0⟩]

def vancouver : List SeasonRule :=
  [ ⟨1918, 1918, 4, .on 14, 7200, .wall, 3600⟩,
    ⟨1918, 1918, 10, .on 27, 7200, .wall, 0⟩,
    ⟨1942, 1942, 2, .on 9, 7200, .wall, 3600⟩,
    ⟨1945, 1945, 8, .on 14, 82800, .universal, 3600⟩,
    ⟨1945, 1945, 9, .on 30, 7200, .wall, 0⟩,
    ⟨1946, 1986, 4, .last 0, 7200, .wall, 3600⟩,
    ⟨1946, 1946, 9, .on 29, 7200, .wall, 0⟩,
    ⟨1947, 1961, 9, .last 0, 7200, .wall, 0⟩,
    ⟨1962, 2006, 10, .last 0, 7200, .wall, 0⟩]

def northwestTerritories : List SeasonRule :=
  [ ⟨1918, 1918, 4, .on 14, 7200, .wall, 3600⟩,
    ⟨1918, 1918, 10, .on 27, 7200, .wall, 0⟩,
    ⟨1919, 1919, 5, .on 25, 7200, .wall, 3600⟩,
    ⟨1919, 1919, 11, .on 1, 0, .wall, 0⟩,
    ⟨1942, 1942, 2, .on 9, 7200, .wall, 3600⟩,
    ⟨1945, 1945, 8, .on 14, 82800, .universal, 3600⟩,
    ⟨1945, 1945, 9, .on 30, 7200, .wall, 0⟩,
    ⟨1972, 1986, 4, .last 0, 7200, .wall, 3600⟩,
    ⟨1972, 2006, 10, .last 0, 7200, .wall, 0⟩,
    ⟨1987, 2006, 4, .onOrAfter 0 1, 7200, .wall, 3600⟩]

def yukon : List SeasonRule :=
  [ ⟨1965, 1965, 4, .last 0, 0, .wall, 7200⟩,
    ⟨1965, 1965, 10, .last 0, 7200, .wall, 0⟩]

def mexico : List SeasonRule :=
  [ ⟨1931, 1931, 4, .on 30, 0, .wall, 3600⟩,
    ⟨1931, 1931, 10, .on 1, 0, .wall, 0⟩,
    ⟨1939, 1939, 2, .on 5, 0, .wall, 3600⟩,
    ⟨1939, 1939, 6, .on 25, 0, .wall, 0⟩,
    ⟨1940, 1940, 12, .on 9, 0, .wall, 3600⟩,
    ⟨1941, 1941, 4, .on 1, 0, .wall, 0⟩,
    ⟨1943, 1943, 12, .on 16, 0, .wall, 3600⟩,
    ⟨1944, 1944, 5, .on 1, 0, .wall, 0⟩,
    ⟨1950, 1950, 2, .on 12, 0, .wall, 3600⟩,
    ⟨1950, 1950, 7, .on 30, 0, .wall, 0⟩,
    ⟨1996, 2000, 4, .onOrAfter 0 1, 7200, .wall, 3600⟩,
    ⟨1996, 2000, 10, .last 0, 7200, .wall, 0⟩,
    ⟨2001, 2001, 5, .onOrAfter 0 1, 7200, .wall, 3600⟩,
    ⟨2001, 2001, 9, .last 0, 7200, .wall, 0⟩,
    ⟨2002, 2022, 4, .onOrAfter 0 1, 7200, .wall, 3600⟩,
    ⟨2002, 2022, 10, .last 0, 7200, .wall, 0⟩]

def barbados : List SeasonRule :=
  [ ⟨1942, 1942, 4, .on 19, 18000, .universal, 3600⟩,
    ⟨1942, 1942, 8, .on 31, 21600, .universal, 0⟩,
    ⟨1943, 1943, 5, .on 2, 18000, .universal, 3600⟩,
    ⟨1943, 1943, 9, .on 5, 21600, .universal, 0⟩,
    ⟨1944, 1944, 4, .on 10, 18000, .universal, 1800⟩,
    ⟨1944, 1944, 9, .on 10, 21600, .universal, 0⟩,
    ⟨1977, 1977, 6, .on 12, 7200, .wall, 3600⟩,
    ⟨1977, 1978, 10, .onOrAfter 0 1, 7200, .wall, 0⟩,
    ⟨1978, 1980, 4, .onOrAfter 0 15, 7200, .wall, 3600⟩,
    ⟨1979, 1979, 9, .on 30, 7200, .wall, 0⟩,
    ⟨1980, 1980, 9, .on 25, 7200, .wall, 0⟩]

def belize : List SeasonRule :=
  [ ⟨1918, 1941, 10, .onOrAfter 6 1, 86400, .wall, 1800⟩,
    ⟨1919, 1942, 2, .onOrAfter 6 8, 86400, .wall, 0⟩,
    ⟨1942, 1942, 6, .on 27, 86400, .wall, 3600⟩,
    ⟨1945, 1945, 8, .on 14, 82800, .universal, 3600⟩,
    ⟨1945, 1945, 12, .on 15, 86400, .wall, 0⟩,
    ⟨1947, 1967, 10, .onOrAfter 6 1, 86400, .wall, 1800⟩,
    ⟨1948, 1968, 2, .onOrAfter 6 8, 86400, .wall, 0⟩,
    ⟨1973, 1973, 12, .on 5, 0, .wall, 3600⟩,
    ⟨1974, 1974, 2, .on 9, 0, .wall, 0⟩,
    ⟨1982, 1982, 12, .on 18, 0, .wall, 3600⟩,
    ⟨1983, 1983, 2, .on 12, 0, .wall, 0⟩]

def bermuda : List SeasonRule :=
  [ ⟨1917, 1917, 4, .on 5, 86400, .wall, 3600⟩,
    ⟨1917, 1917, 9, .on 30, 86400, .wall, 0⟩,
    ⟨1918, 1918, 4, .on 13, 86400, .wall, 3600⟩,
    ⟨1918, 1918, 9, .on 15, 86400, .wall, 0⟩,
    ⟨1942, 1942, 1, .on 11, 7200, .wall, 3600⟩,
    ⟨1942, 1942, 10, .on 18, 7200, .wall, 0⟩,
    ⟨1943, 1943, 3, .on 21, 7200, .wall, 3600⟩,
    ⟨1943, 1943, 10, .on 31, 7200, .wall, 0⟩,
    ⟨1944, 1945, 3, .onOrAfter 0 8, 7200, .wall, 3600⟩,
    ⟨1944, 1945, 11, .onOrAfter 0 1, 7200, .wall, 0⟩,
    ⟨1947, 1947, 5, .onOrAfter 0 15, 7200, .wall, 3600⟩,
    ⟨1947, 1947, 9, .onOrAfter 0 8, 7200, .wall, 0⟩,
    ⟨1948, 1952, 5, .onOrAfter 0 22, 7200, .wall, 3600⟩,
    ⟨1948, 1952, 9, .onOrAfter 0 1, 7200, .wall, 0⟩,
    ⟨1956, 1956, 5, .onOrAfter 0 22, 7200, .wall, 3600⟩,
    ⟨1956, 1956, 10, .last 0, 7200, .wall, 0⟩]

def costaRica : List SeasonRule :=
  [ ⟨1979, 1980, 2, .last 0, 0, .wall, 3600⟩,
    ⟨1979, 1980, 6, .onOrAfter 0 1, 0, .wall, 0⟩,
    ⟨1991, 1992, 1, .onOrAfter 6 15, 0, .wall, 3600⟩,
    ⟨1991, 1991, 7, .on 1, 0, .wall, 0⟩,
    ⟨1992, 1992, 3, .on 15, 0, .wall, 0⟩]

def cuba : List SeasonRule :=
  [ ⟨1928, 1928, 6, .on 10, 0, .wall, 3600⟩,
    ⟨1928, 1928, 10, .on 10, 0, .wall, 0⟩,
    ⟨1940, 1942, 6, .onOrAfter 0 1, 0, .wall, 3600⟩,
    ⟨1940, 1942, 9, .onOrAfter 0 1, 0, .wall, 0⟩,
    ⟨1945, 1946, 6, .onOrAfter 0 1, 0, .wall, 3600⟩,
    ⟨1945, 1946, 9, .onOrAfter 0 1, 0, .wall, 0⟩,
    ⟨1965, 1965, 6, .on 1, 0, .wall, 3600⟩,
    ⟨1965, 1965, 9, .on 30, 0, .wall, 0⟩,
    ⟨1966, 1966, 5, .on 29, 0, .wall, 3600⟩,
    ⟨1966, 1966, 10, .on 2, 0, .wall, 0⟩,
    ⟨1967, 1967, 4, .on 8, 0, .wall, 3600⟩,
    ⟨1967, 1968, 9, .onOrAfter 0 8, 0, .wall, 0⟩,
    ⟨1968, 1968, 4, .on 14, 0, .wall, 3600⟩,
    ⟨1969, 1977, 4, .last 0, 0, .wall, 3600⟩,
    ⟨1969, 1971, 10, .last 0, 0, .wall, 0⟩,
    ⟨1972, 1974, 10, .on 8, 0, .wall, 0⟩,
    ⟨1975, 1977, 10, .last 0, 0, .wall, 0⟩,
    ⟨1978, 1978, 5, .on 7, 0, .wall, 3600⟩,
    ⟨1978, 1990, 10, .onOrAfter 0 8, 0, .wall, 0⟩,
    ⟨1979, 1980, 3, .onOrAfter 0 15, 0, .wall, 3600⟩,
    ⟨1981, 1985, 5, .onOrAfter 0 5, 0, .wall, 3600⟩,
    ⟨1986, 1989, 3, .onOrAfter 0 14, 0, .wall, 3600⟩,
    ⟨1990, 1997, 4, .onOrAfter 0 1, 0, .wall, 3600⟩,
    ⟨1991, 1995, 10, .onOrAfter 0 8, 0, .standard, 0⟩,
    ⟨1996, 1996, 10, .on 6, 0, .standard, 0⟩,
    ⟨1997, 1997, 10, .on 12, 0, .standard, 0⟩,
    ⟨1998, 1999, 3, .last 0, 0, .standard, 3600⟩,
    ⟨1998, 2003, 10, .last 0, 0, .standard, 0⟩,
    ⟨2000, 2003, 4, .onOrAfter 0 1, 0, .standard, 3600⟩,
    ⟨2004, 2004, 3, .last 0, 0, .standard, 3600⟩,
    ⟨2006, 2010, 10, .last 0, 0, .standard, 0⟩,
    ⟨2007, 2007, 3, .onOrAfter 0 8, 0, .standard, 3600⟩,
    ⟨2008, 2008, 3, .onOrAfter 0 15, 0, .standard, 3600⟩,
    ⟨2009, 2010, 3, .onOrAfter 0 8, 0, .standard, 3600⟩,
    ⟨2011, 2011, 3, .onOrAfter 0 15, 0, .standard, 3600⟩,
    ⟨2011, 2011, 11, .on 13, 0, .standard, 0⟩,
    ⟨2012, 2012, 4, .on 1, 0, .standard, 3600⟩,
    ⟨2012, 9999, 11, .onOrAfter 0 1, 0, .standard, 0⟩,
    ⟨2013, 9999, 3, .onOrAfter 0 8, 0, .standard, 3600⟩]

def dominicanRepublic : List SeasonRule :=
  [ ⟨1966, 1966, 10, .on 30, 0, .wall, 3600⟩,
    ⟨1967, 1967, 2, .on 28, 0, .wall, 0⟩,
    ⟨1969, 1973, 10, .last 0, 0, .wall, 1800⟩,
    ⟨1970, 1970, 2, .on 21, 0, .wall, 0⟩,
    ⟨1971, 1971, 1, .on 20, 0, .wall, 0⟩,
    ⟨1972, 1974, 1, .on 21, 0, .wall, 0⟩]

def elSalvador : List SeasonRule :=
  [ ⟨1987, 1988, 5, .onOrAfter 0 1, 0, .wall, 3600⟩,
    ⟨1987, 1988, 9, .last 0, 0, .wall, 0⟩]

def guatemala : List SeasonRule :=
  [ ⟨1973, 1973, 11, .on 25, 0, .wall, 3600⟩,
    ⟨1974, 1974, 2, .on 24, 0, .wall, 0⟩,
    ⟨1983, 1983, 5, .on 21, 0, .wall, 3600⟩,
    ⟨1983, 1983, 9, .on 22, 0, .wall, 0⟩,
    ⟨1991, 1991, 3, .on 23, 0, .wall, 3600⟩,
    ⟨1991, 1991, 9, .on 7, 0, .wall, 0⟩,
    ⟨2006, 2006, 4, .on 30, 0, .wall, 3600⟩,
    ⟨2006, 2006, 10, .on 1, 0, .wall, 0⟩]

def haiti : List SeasonRule :=
  [ ⟨1983, 1983, 5, .on 8, 0, .wall, 3600⟩,
    ⟨1984, 1987, 4, .last 0, 0, .wall, 3600⟩,
    ⟨1983, 1987, 10, .last 0, 0, .wall, 0⟩,
    ⟨1988, 1997, 4, .onOrAfter 0 1, 3600, .standard, 3600⟩,
    ⟨1988, 1997, 10, .last 0, 3600, .standard, 0⟩,
    ⟨2005, 2006, 4, .onOrAfter 0 1, 0, .wall, 3600⟩,
    ⟨2005, 2006, 10, .last 0, 0, .wall, 0⟩,
    ⟨2012, 2015, 3, .onOrAfter 0 8, 7200, .wall, 3600⟩,
    ⟨2012, 2015, 11, .onOrAfter 0 1, 7200, .wall, 0⟩,
    ⟨2017, 9999, 3, .onOrAfter 0 8, 7200, .wall, 3600⟩,
    ⟨2017, 9999, 11, .onOrAfter 0 1, 7200, .wall, 0⟩]

def honduras : List SeasonRule :=
  [ ⟨1987, 1988, 5, .onOrAfter 0 1, 0, .wall, 3600⟩,
    ⟨1987, 1988, 9, .last 0, 0, .wall, 0⟩,
    ⟨2006, 2006, 5, .onOrAfter 0 1, 0, .wall, 3600⟩,
    ⟨2006, 2006, 8, .onOrAfter 1 1, 0, .wall, 0⟩]

def nicaragua : List SeasonRule :=
  [ ⟨1979, 1980, 3, .onOrAfter 0 16, 0, .wall, 3600⟩,
    ⟨1979, 1980, 6, .onOrAfter 1 23, 0, .wall, 0⟩,
    ⟨2005, 2005, 4, .on 10, 0, .wall, 3600⟩,
    ⟨2005, 2005, 10, .onOrAfter 0 1, 0, .wall, 0⟩,
    ⟨2006, 2006, 4, .on 30, 7200, .wall, 3600⟩,
    ⟨2006, 2006, 10, .onOrAfter 0 1, 3600, .wall, 0⟩]

end Analytics.Zone.Season
